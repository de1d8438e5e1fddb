import StatementGate.Gateway.Open
import StatementGate.Settings.Validation

/-! # Setting up a gateway

The steps from settings to a gateway: the settings are validated, the audit trail and every database
are opened, and the policies are registered. -/

namespace StatementGate

/-- How files are reached, and what an open database is then. Errors are told as text. -/
structure FileAccess (m : Type → Type) (Connection : Type) where
  read : String → m (Except String (List UInt8))
  openLog : String → m (Except String Unit)
  openDatabase : (path : String) → (readOnly : Bool) → (busyTimeoutMs : Nat) →
    m (Except String Connection)

variable {m : Type → Type} [Monad m] {Connection : Type}

namespace AuditSettings

/-- The file of the audit trail, if it goes to one. -/
def file? (s : AuditSettings) : Option String := if s.enabled then s.path.map trimBlanks else none

def openTrail (access : FileAccess m Connection) (s : AuditSettings) : m (Except String Unit) :=
  match s.file? with
  | some path => access.openLog path
  | none => pure (.ok ())

end AuditSettings

namespace DatabaseSettings

def openBackend (access : FileAccess m Connection) (s : DatabaseSettings) :
    m (Except DatabaseError (Backend Connection)) := do
  match ← access.openDatabase (trimBlanks s.path) s.readOnly s.busyTimeoutMs with
  | .error reason => pure (.error (.openFailed reason))
  | .ok connection => pure (.ok ⟨connection, s.readOnly⟩)

end DatabaseSettings

namespace Settings

/-- Opens databases in turn, up to the first that cannot be opened, and adds them to a catalog. -/
def openDatabases (access : FileAccess m Connection) (catalog : KeyMap (Backend Connection)) :
    List DatabaseSettings → m (Except DatabaseError (KeyMap (Backend Connection)))
  | [] => pure (.ok catalog)
  | d :: rest => do
    match ← d.openBackend access with
    | .error e => pure (.error (.openFailed s!"{d.id}: {e.message}"))
    | .ok backend => openDatabases access (catalog.insert d.id backend) rest

def openGateway (access : FileAccess m Connection) (s : Settings) :
    m (Except GatewayError (OpenGateway Connection)) := do
  match s.validate with
  | .error e => pure (.error (.setup e.message))
  | .ok () =>
    match ← s.audit.openTrail access with
    | .error reason => pure (.error (.setup reason))
    | .ok () =>
      match ← openDatabases access .empty s.databases with
      | .error e => pure (.error (.setup e.message))
      | .ok catalog =>
        let sanitizers := SanitizerRegistry.ofSettings s.sanitization
        pure (.ok ⟨catalog, sanitizers, s.approval.timeoutMs⟩)

end Settings

end StatementGate
