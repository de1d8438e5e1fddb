import StatementGate.Program

/-! # Reply slots

The way of one decision from an operator to the review that waits for it. The operator learns
whether anybody was still waiting. -/

namespace StatementGate

/-- An operator holds one end and a review the other; either may let go of it. -/
inductive ReplySlot where
  | waiting
  | answered (decision : Decision)
  | dropped
  | closed
  deriving DecidableEq

namespace ReplySlot

/-- Whether the decision was delivered. -/
def respond (slot : ReplySlot) (decision : Decision) : Bool × ReplySlot :=
  match slot with
  | .waiting => (true, .answered decision)
  | slot => (false, slot)

/-- The operator lets go of a request undecided. -/
def drop : ReplySlot → ReplySlot
  | .waiting => .dropped
  | slot => slot

/-- The review no longer waits. -/
def close (_ : ReplySlot) : ReplySlot := .closed

def droppedByOperator : ApprovalError := .unavailable "operator dropped the request"

/-- What the review finds in the slot. -/
def poll? : ReplySlot → Option Verdict
  | .answered decision => some (.decided decision)
  | .dropped => some (.failed droppedByOperator)
  | .waiting | .closed => none

/-- A decision that is there counts also when the time is over. -/
def atDeadline (slot : ReplySlot) : Verdict := slot.poll?.getD .expired

end ReplySlot

end StatementGate
