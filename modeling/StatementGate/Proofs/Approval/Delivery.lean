import StatementGate.Approval.ReplySlot
import StatementGate.Approval.Session

/-! # Delivery of a decision

A review that waits for a decision, and the operator who answers it once. The answer, the review's
looks into the slot, the end of its window and the end of its request come in any order. -/

namespace StatementGate

/-- What the operator was told is the decision, and whether it was delivered. -/
structure Delivery where
  slot : ReplySlot
  session : ApprovalSession
  told : Option (Decision × Bool)

inductive DeliveryMove where
  | respond (decision : Decision)
  | look
  /-- The window is over, and the review does not look again. -/
  | expire
  | cancel

namespace Delivery

def start (requestId : String) : Delivery := ⟨.waiting, ⟨requestId, .pending, none⟩, none⟩

/-- The review ends, and nobody waits any more. -/
def settle (t : Delivery) (next : ApprovalState) (detail : Option String) : Delivery :=
  match t.session.advance next detail with
  | .ok (_, session) => { t with session, slot := t.slot.close }
  | .error _ => t

def move (t : Delivery) : DeliveryMove → Delivery
  | .respond decision =>
    match t.told, t.slot.respond decision with
    | some _, _ => t
    | none, (delivered, slot) => { t with slot, told := some (decision, delivered) }
  | .look =>
    match t.slot.poll? with
    | none => t
    | some verdict => t.settle verdict.state verdict.detail
  | .expire => t.settle .timedOut none
  | .cancel => t.settle .abandoned none

/-- What a list of moves leads to. -/
def after (requestId : String) (moves : List DeliveryMove) : Delivery :=
  moves.foldl move (start requestId)

def GivenUp (t : Delivery) : Prop := t.session.state = .timedOut ∨ t.session.state = .abandoned

/-- Where the slot, the session and what the operator was told may stand together. -/
inductive Fits (requestId : String) : Delivery → Prop
  | waiting : Fits requestId (start requestId)
  | answered (decision : Decision) :
    Fits requestId ⟨.answered decision, ⟨requestId, .pending, none⟩, some (decision, true)⟩
  | decided (decision : Decision) :
    Fits requestId
      ⟨.closed, ⟨requestId, (Verdict.decided decision).state, none⟩, some (decision, true)⟩
  | givenUp {state : ApprovalState} (h : state = .timedOut ∨ state = .abandoned)
    (told : Option (Decision × Bool)) : Fits requestId ⟨.closed, ⟨requestId, state, none⟩, told⟩

variable {requestId : String} {t : Delivery}

theorem Fits.settle_givenUp (h : Fits requestId t) {next : ApprovalState}
    (hnext : next = .timedOut ∨ next = .abandoned) : Fits requestId (t.settle next none) := by
  have hpending : ApprovalState.pending.canTransition next = true := by
    rcases hnext with rfl | rfl <;> rfl
  cases h with
  | waiting => simpa [settle, start, ApprovalSession.advance, hpending] using .givenUp hnext _
  | answered decision =>
    simpa [settle, ApprovalSession.advance, hpending] using .givenUp hnext _
  | decided decision =>
    -- a decision is final
    rcases hnext with rfl | rfl <;> cases decision <;> exact .decided _
  | givenUp hstate told =>
    rcases hnext with rfl | rfl <;> rcases hstate with rfl | rfl <;> exact .givenUp (by simp) told

theorem Fits.move (h : Fits requestId t) (m : DeliveryMove) : Fits requestId (t.move m) := by
  cases m with
  | respond decision =>
    cases h with
    | waiting => exact .answered decision
    | answered decision' => exact .answered decision'
    | decided decision' => exact .decided decision'
    | givenUp hstate told =>
      cases told with
      | none => exact .givenUp hstate (some (decision, false))
      | some told => exact .givenUp hstate (some told)
  | look =>
    cases h with
    | waiting => exact .waiting
    | answered decision => cases decision <;> exact .decided _
    | decided decision => exact .decided decision
    | givenUp hstate told => exact .givenUp hstate told
  | expire => exact h.settle_givenUp (.inl rfl)
  | cancel => exact h.settle_givenUp (.inr rfl)

/-- What one move keeps true holds after any list of them. -/
theorem fits_after (requestId : String) (moves : List DeliveryMove) :
    Fits requestId (after requestId moves) :=
  List.foldlRecOn moves Delivery.move .waiting fun _ h m _ => h.move m

/-- A decision was not delivered only if the review was given up. One that was delivered is found by
the next look, and the session ends with it, unless the review is given up before it looks. -/
theorem delivered_unless_givenUp (requestId : String) (moves : List DeliveryMove)
    (decision : Decision) :
    ((after requestId moves).told = some (decision, false) → (after requestId moves).GivenUp) ∧
    ((after requestId moves).told = some (decision, true) →
      ((after requestId moves).move .look).session.state = (Verdict.decided decision).state ∨
        (after requestId moves).GivenUp) := by
  generalize after requestId moves = t, fits_after requestId moves = h
  cases h with
  | waiting => simp [start]
  | answered decision' =>
    refine ⟨by simp, fun htold => .inl ?_⟩
    obtain rfl : decision' = decision := by simpa using htold
    cases decision' <;> rfl
  | decided decision' =>
    refine ⟨by simp, fun htold => .inl ?_⟩
    obtain rfl : decision' = decision := by simpa using htold
    rfl
  | givenUp hstate told => exact ⟨fun _ => hstate, fun _ => .inr hstate⟩

/-- An operator may be told that an approval was delivered although the request is abandoned. -/
theorem delivered_and_abandoned :
    (after "req-1" [.respond .approved, .cancel]).told = some (.approved, true) ∧
      (after "req-1" [.respond .approved, .cancel]).session.state = .abandoned :=
  ⟨rfl, rfl⟩

end Delivery

end StatementGate
