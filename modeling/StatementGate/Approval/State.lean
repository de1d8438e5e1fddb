/-! # Approval states

The life of an approval session: it is proposed, surfaced to an operator, decided, and, when
approved, ends with the execution. -/

namespace StatementGate

inductive ApprovalState where
  | proposed | pending | approved | rejected | timedOut | abandoned | executed | executionFailed
  deriving DecidableEq

namespace ApprovalState

def all : List ApprovalState :=
  [.proposed, .pending, .approved, .rejected, .timedOut, .abandoned, .executed, .executionFailed]

def label : ApprovalState → String
  | .proposed => "proposed"
  | .pending => "pending"
  | .approved => "approved"
  | .rejected => "rejected"
  | .timedOut => "timed_out"
  | .abandoned => "abandoned"
  | .executed => "executed"
  | .executionFailed => "execution_failed"

def canTransition : (source target : ApprovalState) → Bool
  | .proposed, .pending | .proposed, .rejected | .proposed, .abandoned => true
  | .pending, .approved | .pending, .rejected | .pending, .timedOut | .pending, .abandoned => true
  | .approved, .executed | .approved, .executionFailed => true
  | _, _ => false

def isTerminal : ApprovalState → Bool
  | .rejected | .timedOut | .abandoned | .executed | .executionFailed => true
  | .proposed | .pending | .approved => false

end ApprovalState

inductive ApprovalError where
  | unavailable (reason : String)
  | invalidTransition (source target : ApprovalState)
  deriving DecidableEq

namespace ApprovalError

def message : ApprovalError → String
  | .unavailable reason => s!"approval unavailable: {reason}"
  | .invalidTransition source target =>
    s!"invalid approval transition from {source.label} to {target.label}"

end ApprovalError

inductive Decision where
  | approved | rejected
  deriving DecidableEq

end StatementGate
