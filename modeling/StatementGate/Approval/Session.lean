import StatementGate.Digest.Sha256
import StatementGate.Json.Printer
import StatementGate.Program

/-! # Approval sessions

The approval of one request. Each step is checked against the states' transitions and recorded; a
session that is given up while nobody has decided is recorded as abandoned. -/

namespace StatementGate

structure ApprovalSession where
  requestId : String
  state : ApprovalState
  detail : Option String
  deriving DecidableEq

namespace Verdict

def state : Verdict → ApprovalState
  | .decided .approved => .approved
  | .decided .rejected => .rejected
  | .failed _ => .rejected
  | .expired => .timedOut

def detail : Verdict → Option String
  | .failed error => some error.message
  | _ => none

end Verdict

namespace ApprovalSession

def proposed (requestId : String) : ApprovalSession := ⟨requestId, .proposed, none⟩

def isApproved (s : ApprovalSession) : Bool := s.state == .approved

/-- The session in its next state, and the event of the step. -/
def advance (s : ApprovalSession) (next : ApprovalState) (detail : Option String) :
    Except ApprovalError (ApprovalEvent × ApprovalSession) :=
  if s.state.canTransition next then
    .ok (⟨s.requestId, some s.state, next, none, detail⟩, ⟨s.requestId, next, detail⟩)
  else .error (.invalidTransition s.state next)

/-- What is noted when the session is given up. -/
def abandonment (s : ApprovalSession) : List Note :=
  match s.advance .abandoned none with
  | .ok (event, _) => [.recorded (.approval event)]
  | .error _ => []

/-- Takes a step and records it. -/
def enter (s : ApprovalSession) (next : ApprovalState) (detail : Option String) :
    Program (Except ApprovalError ApprovalSession) :=
  match s.advance next detail with
  | .ok (event, s) => .record (.approval event) (.done (.ok s))
  | .error error => .done (.error error)

end ApprovalSession

namespace ApprovalRequest

def contextHash (r : ApprovalRequest) : String := Sha256.ofText r.context.digestForm.canonical

def proposal (r : ApprovalRequest) : ApprovalEvent :=
  ⟨r.requestId, none, .proposed, some r.contextHash, none⟩

/-- Surfaces a request to an operator and waits for the decision. -/
def review (r : ApprovalRequest) : Program (Except ApprovalError ApprovalSession) :=
  let session := ApprovalSession.proposed r.requestId
  .record (.approval r.proposal) <|
  .wait (.surface r) session.abandonment fun
    | .error error => session.enter .rejected (some error.message)
    | .ok () => do
      match ← session.enter .pending none with
      | .error error => pure (.error error)
      | .ok session =>
        .wait (.decision r.requestId) session.abandonment fun verdict =>
          session.enter verdict.state verdict.detail

end ApprovalRequest

end StatementGate
