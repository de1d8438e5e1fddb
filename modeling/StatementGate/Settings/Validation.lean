import StatementGate.Network.Address
import StatementGate.Settings.Basic

/-! # Validation of settings

The rules that settings have to keep before a gateway is set up with them, and the first that is
broken. -/

namespace StatementGate

/-- Why there are no usable settings. The cause of ill-formed text is left out. -/
inductive SettingsError where
  | io (reason : String)
  | parse
  | invalid (reason : String)
  deriving DecidableEq

namespace SettingsError

def message : SettingsError → String
  | .io reason => s!"config io error: {reason}"
  | .parse => "config parse error"
  | .invalid reason => s!"invalid config: {reason}"

end SettingsError

namespace Settings

abbrev Checked := Except SettingsError Unit

/-- Goes on only if a rule is kept. -/
def ensure (kept : Bool) (broken : String) : Checked :=
  if kept then .ok () else .error (.invalid broken)

def maxBodyLimit : Nat := 16 * 1024 * 1024

def maxPathBytes : Nat := 4096

def maxComponentBytes : Nat := 255

def maxIdentifierBytes : Nat := 128

def maxDatabases : Nat := 64

def maxPolicies : Nat := 1024

/-- The parts of a path between slashes. -/
def pathParts (path : String) : List String := (split path.toList).map String.ofList
where
  split : List Char → List (List Char)
    | [] => [[]]
    | c :: rest =>
      if c = '/' then [] :: split rest
      else
        match split rest with
        | [] => [[c]]
        | part :: parts => (c :: part) :: parts

def hasLongComponent (path : String) : Bool :=
  (pathParts path).any fun part => maxComponentBytes < part.utf8ByteSize

def checkPath (field value : String) : Checked := do
  let path := trimBlanks value
  ensure (!path.isEmpty) s!"{field} must be non-empty"
  ensure (path.utf8ByteSize ≤ maxPathBytes) s!"{field} exceeds max length"
  ensure (!hasLongComponent path) s!"{field} path component too long"

def checkIdentifier (field value : String) : Checked := do
  ensure (!value.isEmpty) s!"{field} must be non-empty"
  ensure (value.utf8ByteSize ≤ maxIdentifierBytes) s!"{field} exceeds max length"
  ensure (!value.toList.any isBlank) s!"{field} must not contain whitespace"

end Settings

namespace ServerSettings

/-- The address to listen at, which blanks may surround. -/
def address (s : ServerSettings) : Except SettingsError SocketAddress :=
  match SocketAddress.parse? (trimBlanks s.bind) with
  | some address => .ok address
  | none => .error (.invalid "invalid bind address")

def validate (s : ServerSettings) : Settings.Checked := do
  Settings.ensure (s.maxBodyBytes != 0) "max_body_bytes must be greater than zero"
  Settings.ensure (s.maxBodyBytes ≤ Settings.maxBodyLimit) "max_body_bytes too large"
  let address ← s.address
  Settings.ensure (address.ip.isLoopback || s.allowNonLoopback)
    "non-loopback bind requires server.allow_non_loopback"

end ServerSettings

namespace ApprovalSettings

def minTimeoutMs : Nat := 100

def maxTimeoutMs : Nat := 24 * 60 * 60 * 1000

def validate (s : ApprovalSettings) : Settings.Checked :=
  Settings.ensure (minTimeoutMs ≤ s.timeoutMs && s.timeoutMs ≤ maxTimeoutMs)
    s!"approval.timeout_ms must be between {minTimeoutMs} and {maxTimeoutMs}"

end ApprovalSettings

namespace AuditSettings

def validate (s : AuditSettings) : Settings.Checked :=
  match s.path with
  | some path => Settings.checkPath "audit.path" path
  | none => .ok ()

end AuditSettings

namespace DatabaseSettings

def validate (s : DatabaseSettings) : Settings.Checked := do
  Settings.checkIdentifier "databases.id" s.id
  Settings.checkPath "databases.path" s.path

end DatabaseSettings

namespace SanitizationSettings

/-- A policy masks columns exactly if it lists some. -/
def checkPolicy (s : SanitizationSettings) : Settings.Checked :=
  match s.policy with
  | .passThrough =>
    Settings.ensure s.columns.entries.isEmpty
      s!"sanitization for {s.entityType} is pass_through but lists columns"
  | .columnMask =>
    Settings.ensure (!s.columns.entries.isEmpty)
      s!"sanitization for {s.entityType} is column_mask but lists no columns"

def validate (s : SanitizationSettings) : Settings.Checked := do
  Settings.checkIdentifier "sanitization.entity_type" s.entityType
  Settings.checkIdentifier "sanitization.table" s.tableName
  s.checkPolicy
  s.columns.keys.forM (Settings.checkIdentifier "sanitization.columns")

end SanitizationSettings

namespace Settings

/-- Each database on its own, and no identity twice. -/
def checkDatabases : (seen : List String) → List DatabaseSettings → Checked
  | _, [] => .ok ()
  | seen, d :: rest => do
    d.validate
    ensure (!seen.contains d.id) s!"duplicate database id: {d.id}"
    checkDatabases (d.id :: seen) rest

/-- Each policy on its own, and no entity type or table twice; tables up to ASCII case. -/
def checkPolicies : (entities tables : List String) → List SanitizationSettings → Checked
  | _, _, [] => .ok ()
  | entities, tables, s :: rest => do
    s.validate
    ensure (!entities.contains s.entityType)
      s!"duplicate sanitization entity_type: {s.entityType}"
    ensure (!tables.contains (Ascii.lower s.tableName))
      s!"duplicate sanitization table: {s.tableName}"
    checkPolicies (s.entityType :: entities) (Ascii.lower s.tableName :: tables) rest

def validate (s : Settings) : Checked := do
  s.server.validate
  s.approval.validate
  s.audit.validate
  ensure (!s.databases.isEmpty) "at least one [[databases]] entry required"
  ensure (s.databases.length ≤ maxDatabases) "too many databases"
  checkDatabases [] s.databases
  ensure (s.sanitization.length ≤ maxPolicies) "too many sanitization entries"
  checkPolicies [] [] s.sanitization

end Settings

end StatementGate
