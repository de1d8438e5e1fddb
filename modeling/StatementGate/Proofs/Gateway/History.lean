import StatementGate.Proofs.Gateway.Traffic
import StatementGate.Proofs.Interleaving

/-! # Histories

The histories that the handling of one request allows, read off its program, and the proof that in
any traffic every request has a history of its own program: other requests cannot add to it. -/

namespace StatementGate

variable {window : Nat}

/-- The histories of a program up to any point of it. -/
inductive Program.Allows (window : Nat) : Program ExecutionResult → List Observation → Prop where
  | start (p : Program ExecutionResult) : p.Allows window []
  | returned (result : ExecutionResult) : (Program.done result).Allows window [.returned result]
  | noted {p : Program ExecutionResult} {history : List Observation} (n : Note) :
    p.Allows window history → (Program.note n p).Allows window (.noted n :: history)
  | called (w : Wait) (notes : List Note) (next : w.Answer → Program ExecutionResult) :
    (Program.wait w notes next).Allows window [.called w]
  | answered {w : Wait} {notes : List Note} {next : w.Answer → Program ExecutionResult}
      {history : List Observation} (answer : w.Answer) (elapsed : Nat) :
    w.admits window elapsed answer → (next answer).Allows window history →
    (Program.wait w notes next).Allows window
      (.called w :: .answered w answer elapsed :: history)
  | abandoned (w : Wait) (notes : List Note) (next : w.Answer → Program ExecutionResult) :
    (Program.wait w notes next).Allows window
      (.called w :: .abandoned :: notes.map .noted)

/-- What may still be seen of a request. -/
def Phase.Allows (window : Nat) : Phase → List Observation → Prop
  | .running p, rest => p.Allows window rest
  | .waiting _ w notes next, rest => (Program.wait w notes next).Allows window (.called w :: rest)
  | .ended, rest => rest = []

theorem Phase.allows_nil (phase : Phase) : phase.Allows window [] := by
  cases phase with
  | running p => exact .start p
  | waiting since w notes next => exact .called w notes next
  | ended => rfl

/-- The steps of one request, by what happens to it. -/
inductive Phase.Steps (window now : Nat) : Phase → List Observation → Phase → Prop where
  | returns (result : ExecutionResult) :
    Steps window now (.running (.done result)) [.returned result] .ended
  | notes (n : Note) (next : Program ExecutionResult) :
    Steps window now (.running (.note n next)) [.noted n] (.running next)
  | calls (w : Wait) (notes : List Note) (next : w.Answer → Program ExecutionResult) :
    Steps window now (.running (.wait w notes next)) [.called w] (.waiting now w notes next)
  | goesOn (since : Nat) {w : Wait} (notes : List Note) (next : w.Answer → Program ExecutionResult)
      {answer : w.Answer} : w.admits window (now - since) answer →
    Steps window now (.waiting since w notes next) [.answered w answer (now - since)]
      (.running (next answer))
  | givenUp (since : Nat) (w : Wait) (notes : List Note)
      (next : w.Answer → Program ExecutionResult) :
    Steps window now (.waiting since w notes next) (.abandoned :: notes.map .noted) .ended

theorem Phase.steps_of_step {now : Nat} {phase phase' : Phase} {move : Move}
    {seen : List Observation} (h : phase.step window now move = some (seen, phase')) :
    phase.Steps window now seen phase' := by
  simp only [Phase.step] at h
  split at h
  · cases h
    exact .returns _
  · cases h
    exact .notes _ _
  · cases h
    exact .calls _ _ _
  · split at h
    · rename_i heq
      subst heq
      simp only at h
      split at h
      · cases h
        exact .goesOn _ _ _ (by assumption)
      · cases h
    · cases h
  · cases h
    exact .givenUp _ _ _ _
  · cases h

theorem Phase.Steps.allows {now : Nat} {phase phase' : Phase} {seen rest : List Observation}
    (h : phase.Steps window now seen phase') (hr : phase'.Allows window rest) :
    phase.Allows window (seen ++ rest) := by
  cases h with
  | returns result =>
    cases hr
    exact .returned _
  | notes n next => exact .noted _ hr
  | calls w notes next => exact hr
  | goesOn since notes next hadmits => exact .answered _ _ hadmits hr
  | givenUp since w notes next =>
    cases hr
    rw [List.append_nil]
    exact .abandoned _ _ _

/-- A request ends with its result or by being given up, and does not move again. -/
theorem Phase.Steps.ended {now : Nat} {phase phase' : Phase} {seen : List Observation}
    (h : phase.Steps window now seen phase') :
    phase ≠ .ended ∧
      (phase' = .ended ↔ (∃ result, .returned result ∈ seen) ∨ .abandoned ∈ seen) := by
  cases h <;> simp

namespace Traffic

variable {Connection : Type} {g : OpenGateway Connection}
  {invariant : Flight → List Observation → Prop}

/-- A move changes nothing, or takes one request a step further. -/
theorem act_move (g : OpenGateway Connection) (t : Traffic) (i : Nat) (move : Move) :
    t.act g (.move i move) = t ∨
      ∃ f seen phase, t.flights[i]? = some f ∧ f.phase.Steps g.approvalTimeout t.now seen phase ∧
        t.act g (.move i move) =
          { t with
            flights := t.flights.set i { f with phase }
            log := t.log ++ seen.map fun o => (i, o) } := by
  simp only [Traffic.act]
  split
  · exact .inl rfl
  · rename_i f hf
    split
    · exact .inl rfl
    · exact .inr ⟨f, _, _, hf, Phase.steps_of_step (by assumption), rfl⟩

section Invariant

variable
  (harrives : ∀ id request, invariant ⟨id, request, .running (g.gateway.handle id request)⟩ [])
  (hmoves : ∀ f history now seen phase, invariant f history →
    f.phase.Steps g.approvalTimeout now seen phase → invariant { f with phase } (history ++ seen))

include harrives hmoves

theorem allKeep_act {t : Traffic} (h : AllKeep invariant t.flights t.log) (a : Action) :
    AllKeep invariant (t.act g a).flights (t.act g a).log := by
  cases a with
  | tick => exact h
  | submit request => exact h.arrive (harrives _ request)
  | move i move =>
    rcases act_move g t i move with hact | ⟨f, seen, phase, hf, hsteps, hact⟩
    · rwa [hact]
    · rw [hact]
      exact h.write hf (hmoves f _ _ seen phase (h.holds i f hf) hsteps)

/-- What holds of a request when it arrives, and is kept by its own moves, holds of it in any
traffic. -/
theorem allKeep_after (actions : List Action) :
    AllKeep invariant (after g actions).flights (after g actions).log := by
  let keeps (t : Traffic) : Prop := AllKeep invariant t.flights t.log
  have hstart : keeps start := .nil
  exact List.foldlRecOn actions (act g) hstart fun _ h a _ => allKeep_act harrives hmoves h a

end Invariant

/-- The history of a request is one that its own program allows, whatever happens beside it. -/
theorem allKeep_allows (actions : List Action) :
    AllKeep (fun f history => (g.gateway.handle f.id f.request).Allows g.approvalTimeout history)
      (after g actions).flights (after g actions).log := by
  let OnItsWay (f : Flight) (history : List Observation) : Prop :=
    ∀ rest, f.phase.Allows g.approvalTimeout rest →
      (g.gateway.handle f.id f.request).Allows g.approvalTimeout (history ++ rest)
  have hall : AllKeep OnItsWay (after g actions).flights (after g actions).log := by
    refine allKeep_after (fun _ _ _ h => h) (fun f history now seen phase h hsteps rest hrest => ?_)
      actions
    rw [List.append_assoc]
    exact h _ (hsteps.allows hrest)
  refine hall.imp fun f history h => ?_
  have h := h [] f.phase.allows_nil
  rwa [List.append_nil] at h

theorem history_allowed {actions : List Action} {i : Nat} {f : Flight}
    (hf : (after g actions).flights[i]? = some f) :
    (g.gateway.handle f.id f.request).Allows g.approvalTimeout ((after g actions).history i) :=
  (allKeep_allows actions).holds i f hf

/-- A request has come to its end once it has returned or was given up. -/
theorem ended_iff {actions : List Action} {i : Nat} {f : Flight}
    (hf : (after g actions).flights[i]? = some f) :
    f.phase = .ended ↔ (∃ result, .returned result ∈ (after g actions).history i) ∨
      .abandoned ∈ (after g actions).history i := by
  let EndIsSeen (f : Flight) (history : List Observation) : Prop :=
    f.phase = .ended ↔ (∃ result, .returned result ∈ history) ∨ .abandoned ∈ history
  have hall : AllKeep EndIsSeen (after g actions).flights (after g actions).log := by
    refine allKeep_after (fun id request => by simp [EndIsSeen]) ?_ actions
    intro f history now seen phase h hsteps
    obtain ⟨hopen, hended⟩ := hsteps.ended
    obtain ⟨hresult, habandoned⟩ := not_or.1 (mt h.2 hopen)
    simp [EndIsSeen, hended, not_exists.1 hresult, habandoned]
  exact hall.holds i f hf

end Traffic

end StatementGate
