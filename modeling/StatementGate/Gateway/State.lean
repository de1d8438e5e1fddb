/-! # Request states

The life of a request: it is received, then read at once or held for approval, and ends succeeded,
rejected or failed. -/

namespace StatementGate

inductive RequestState where
  | received | readExecuting | awaitingApproval | succeeded | rejected | failed
  deriving DecidableEq

namespace RequestState

def all : List RequestState :=
  [.received, .readExecuting, .awaitingApproval, .succeeded, .rejected, .failed]

def label : RequestState → String
  | .received => "received"
  | .readExecuting => "read_executing"
  | .awaitingApproval => "awaiting_approval"
  | .succeeded => "succeeded"
  | .rejected => "rejected"
  | .failed => "failed"

def canTransition : (source target : RequestState) → Bool
  | .received, .readExecuting | .received, .awaitingApproval | .received, .rejected
  | .received, .failed => true
  | .readExecuting, .succeeded | .readExecuting, .failed => true
  | .awaitingApproval, .succeeded | .awaitingApproval, .rejected | .awaitingApproval, .failed => true
  | _, _ => false

end RequestState

end StatementGate
