import StatementGate.Approval.Channel
import StatementGate.Approval.ReplySlot
import StatementGate.Approval.Terminal
import StatementGate.Envelope.Result

/-! # Operators in a rehearsal

The approvers a rehearsed gateway may have, and how an operator behaves towards one request. -/

namespace StatementGate.Rehearsal

inductive Approver where
  | denyAll
  | channel (channel : ApprovalChannel)
  | terminal (console : Console)

/-- All but the first three behaviours take the request's message from a channel. -/
inductive Behaviour where
  | ignore
  | close
  /-- The requester gives up after a millisecond. -/
  | abandon
  | answer (decision : Decision)
  | drop
  /-- The message is held until the request has ended, and then approved. -/
  | silent
  /-- The requester gives up while the message is held; then it is approved. -/
  | abandonShown
  deriving DecidableEq

/-- What an operator saw and was told. -/
structure Report where
  shown : Option ApprovalRequest
  delivered : Option Bool
  lateDelivered : Option Bool
  during : Option (List ExecutionResult)

namespace Report

def empty : Report := ⟨none, none, none, none⟩

end Report

namespace Behaviour

def takesMessage : Behaviour → Bool
  | .ignore | .close | .abandon => false
  | _ => true

/-- What becomes of a reply slot, and what the operator learns of it. Nothing at all is the end of
a request that was given up. -/
def handle (b : Behaviour) (report : Report) : Option Verdict × Report :=
  let slot := ReplySlot.waiting
  match b with
  | .answer decision =>
    let (delivered, slot) := slot.respond decision
    (some slot.atDeadline, { report with delivered := some delivered })
  | .drop => (some slot.drop.atDeadline, report)
  | .abandonShown =>
    (none, { report with lateDelivered := some (slot.close.respond .approved).1 })
  | _ =>
    (some slot.atDeadline, { report with lateDelivered := some (slot.close.respond .approved).1 })

end Behaviour

namespace Approver

/-- The operator's preparations before a request arrives. -/
def prepare (a : Approver) (b : Behaviour) : Approver :=
  match a with
  | .channel c =>
    if b = .close then .channel c.close
    else if b.takesMessage then .channel c.drain
    else a
  | a => a

def output : Approver → String
  | .terminal console => console.output
  | _ => ""

def clearOutput : Approver → Approver
  | .terminal console => .terminal { console with output := "" }
  | a => a

end Approver

end StatementGate.Rehearsal
