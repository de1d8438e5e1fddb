import StatementGate.Approval.Prompt
import StatementGate.Audit.Event
import StatementGate.Gateway.Error

/-! # Programs

The handling of a request as a tree: what it notes, and the points where it waits for a database or
an operator. A branch is chosen by the answer. Whoever waits may be abandoned there, and each point
says what is noted then. -/

namespace StatementGate

/-- How the wait for a decision ended. -/
inductive Verdict where
  | decided (decision : Decision)
  | failed (error : ApprovalError)
  | expired
  deriving DecidableEq

inductive Wait where
  | query (call : DatabaseCall)
  | execute (call : DatabaseCall)
  | surface (request : ApprovalRequest)
  | decision (requestId : String)
  deriving DecidableEq

/-- What a wait brings. -/
abbrev Wait.Answer : Wait → Type
  | .query _ => Except CallFailure QueryOutput
  | .execute _ => Except CallFailure Nat
  | .surface _ => Except ApprovalError Unit
  | .decision _ => Verdict

/-- What a program makes known on its way. -/
inductive Note where
  | entered (state : RequestState)
  | recorded (event : AuditEvent)
  deriving DecidableEq

inductive Program (α : Type) where
  | done (result : α)
  | note (note : Note) (next : Program α)
  | wait (wait : Wait) (abandoned : List Note) (next : wait.Answer → Program α)

namespace Program

variable {α β : Type}

def bind (p : Program α) (f : α → Program β) : Program β :=
  match p with
  | .done result => f result
  | .note n next => .note n (next.bind f)
  | .wait w abandoned next => .wait w abandoned fun answer => (next answer).bind f

instance : Monad Program where
  pure := .done
  bind := bind

def record (event : AuditEvent) (next : Program α) : Program α := .note (.recorded event) next

/-- Notes more, and last, when the program is abandoned. -/
def onAbandon (p : Program α) (notes : List Note) : Program α :=
  match p with
  | .done result => .done result
  | .note n next => .note n (next.onAbandon notes)
  | .wait w abandoned next =>
    .wait w (abandoned ++ notes) fun answer => (next answer).onAbandon notes

end Program

end StatementGate
