import StatementGate.Program

/-! # Approval through a channel

A bounded queue of requests that an operator's surface takes from. -/

namespace StatementGate

structure ApprovalChannel where
  capacity : Nat
  queue : List ApprovalRequest
  isClosed : Bool
  deriving DecidableEq

namespace ApprovalChannel

/-- A channel holds at least one request. -/
def ofCapacity (capacity : Nat) : ApprovalChannel := ⟨max capacity 1, [], false⟩

/-- The operator's surface is gone, for good. -/
def close (c : ApprovalChannel) : ApprovalChannel := { c with queue := [], isClosed := true }

/-- The operator's surface throws away what is queued. -/
def drain (c : ApprovalChannel) : ApprovalChannel := { c with queue := [] }

def closedError : ApprovalError := .unavailable "operator channel closed"

/-- Queues a request; there is no answer yet while the queue is full. -/
def surface (c : ApprovalChannel) (r : ApprovalRequest) :
    Option (Except ApprovalError Unit) × ApprovalChannel :=
  if c.isClosed then (some (.error closedError), c)
  else if c.queue.length < c.capacity then (some (.ok ()), { c with queue := c.queue ++ [r] })
  else (none, c)

end ApprovalChannel

end StatementGate
