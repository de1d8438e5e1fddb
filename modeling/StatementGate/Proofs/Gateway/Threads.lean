import StatementGate.Proofs.Gateway.Execution

/-! # Threads of execution

A database executes a statement on a thread of its own, which goes on when the request that waits for
it is given up. What the thread comes to is recorded exactly if the request still waits to learn it. -/

namespace StatementGate

variable {Connection : Type} {g : OpenGateway Connection}

/-- The traffic of a gateway, and what the threads of its requests came to. -/
structure Service where
  traffic : Traffic
  finished : List (Nat × Except CallFailure Nat)

inductive ServiceAction where
  | act (action : Action)
  | finish (flight : Nat) (answer : Except CallFailure Nat)

namespace Service

def start : Service := ⟨.start, []⟩

/-- Whether the statement of a request is on a thread that has not come to its end. -/
def isExecuting (s : Service) (flight : Nat) : Bool :=
  (s.traffic.history flight).any Observation.isExecute && (s.finished.lookup flight).isNone

/-- The answer to an execution is what its thread came to. -/
def permits (s : Service) : Action → Bool
  | .move flight (.answer (.execute _) answer) => s.finished.lookup flight = some answer
  | _ => true

def act (g : OpenGateway Connection) (s : Service) : ServiceAction → Service
  | .act action =>
    if s.permits action then { s with traffic := s.traffic.act g action } else s
  | .finish flight answer =>
    if s.isExecuting flight then { s with finished := s.finished ++ [(flight, answer)] } else s

/-- The service that a list of actions leads to. -/
def after (g : OpenGateway Connection) (actions : List ServiceAction) : Service :=
  actions.foldl (act g) start

end Service

/-- An answer is seen only where it is given. -/
theorem Phase.eq_answer_of_step {window now elapsed : Nat} {phase phase' : Phase} {move : Move}
    {seen : List Observation} {w : Wait} {answer : w.Answer}
    (h : phase.step window now move = some (seen, phase'))
    (hseen : .answered w answer elapsed ∈ seen) : move = .answer w answer := by
  simp only [Phase.step] at h
  split at h
  · cases h
    simp at hseen
  · cases h
    simp at hseen
  · cases h
    simp at hseen
  · split at h
    · rename_i heq
      subst heq
      simp only at h
      split at h
      · cases h
        simp only [List.mem_singleton] at hseen
        cases hseen
        rfl
      · cases h
    · cases h
  · cases h
    simp at hseen
  · cases h

/-- An action leaves the history of a request, or is a move of this request that adds to it. -/
theorem Traffic.history_act (g : OpenGateway Connection) (t : Traffic) (action : Action) (i : Nat) :
    (t.act g action).history i = t.history i ∨
      ∃ f move seen phase, action = .move i move ∧
        Phase.step g.approvalTimeout t.now f move = some (seen, phase) ∧
        (t.act g action).history i = t.history i ++ seen := by
  cases action with
  | tick => exact .inl rfl
  | submit request => exact .inl rfl
  | move j move =>
    simp only [Traffic.act]
    split
    · exact .inl rfl
    · rename_i f hf
      split
      · exact .inl rfl
      · rename_i seen phase hstep
        have hhistory := entriesOf_append t.log j i seen
        by_cases hij : j = i
        · rw [if_pos hij] at hhistory
          exact .inr ⟨f.phase, move, seen, phase, by rw [hij], hstep, hhistory⟩
        · rw [if_neg hij, List.append_nil] at hhistory
          exact .inl hhistory

namespace Service

/-- What is kept of a service: its traffic is one of the gateway, a thread that came to its end was
started, and the answer to an execution is what its thread came to. -/
structure Faithful (g : OpenGateway Connection) (s : Service) : Prop where
  traffic : ∃ actions, s.traffic = Traffic.after g actions
  called : ∀ i answer, s.finished.lookup i = some answer →
    ∃ call, .called (.execute call) ∈ s.traffic.history i
  answered : ∀ i call answer elapsed,
    .answered (.execute call) answer elapsed ∈ s.traffic.history i →
      s.finished.lookup i = some answer

variable {s : Service}

theorem Faithful.act_traffic (h : s.Faithful g) {action : Action}
    (hpermits : s.permits action = true) :
    Faithful g { s with traffic := s.traffic.act g action } := by
  obtain ⟨actions, htraffic⟩ := h.traffic
  refine ⟨⟨actions ++ [action], by simp [htraffic, Traffic.after]⟩, fun i answer hi => ?_,
    fun i call answer elapsed hmem => ?_⟩
  · obtain ⟨call, hcall⟩ := h.called i answer hi
    rcases s.traffic.history_act g action i with heq | ⟨_, _, seen, _, _, _, heq⟩
    · exact ⟨call, by rwa [heq]⟩
    · exact ⟨call, by simp [heq, hcall]⟩
  · rcases s.traffic.history_act g action i with heq | ⟨_, move, seen, _, rfl, hstep, heq⟩
    · exact h.answered i call answer elapsed (by rwa [heq] at hmem)
    · simp only [heq] at hmem
      rcases List.mem_append.1 hmem with hmem | hmem
      · exact h.answered i call answer elapsed hmem
      · -- a new answer is the one that the action gives, and it was permitted
        rw [Phase.eq_answer_of_step hstep hmem] at hpermits
        simpa [permits] using hpermits

/-- A thread comes to its end once. -/
theorem Faithful.finish (h : s.Faithful g) {i : Nat} (hi : s.isExecuting i = true)
    (answer : Except CallFailure Nat) :
    Faithful g { s with finished := s.finished ++ [(i, answer)] } := by
  simp only [isExecuting, Bool.and_eq_true, List.any_eq_true, Option.isNone_iff_eq_none] at hi
  obtain ⟨⟨o, ho, hexecute⟩, hopen⟩ := hi
  refine ⟨h.traffic, fun j answer' hj => ?_, fun j call answer' elapsed hmem => ?_⟩
  · by_cases hij : j = i
    · rw [hij]
      simp only [Observation.isExecute] at hexecute
      split at hexecute
      · exact ⟨_, ho⟩
      · cases hexecute
    · have hother : [(i, answer)].lookup j = none := by
        rw [List.lookup_cons, beq_false_of_ne hij, List.lookup_nil]
      rw [List.lookup_append, hother, Option.or_none] at hj
      exact h.called j answer' hj
  · rw [List.lookup_append, h.answered j call answer' elapsed hmem]
    rfl

theorem faithful_after (g : OpenGateway Connection) (actions : List ServiceAction) :
    (after g actions).Faithful g := by
  have hstart : start.Faithful g := ⟨⟨[], rfl⟩, nofun, nofun⟩
  refine List.foldlRecOn actions (act g) hstart fun s h action _ => ?_
  cases action with
  | act action =>
    simp only [act]
    split
    · exact h.act_traffic (by assumption)
    · exact h
  | finish i answer =>
    simp only [act]
    split
    · exact h.finish (by assumption) answer
    · exact h

end Service

theorem RecordedAs.outcome_unique {history : List Observation} {outcome outcome' : RequestState}
    {approval approval' : ApprovalState} (h : RecordedAs history outcome approval)
    (h' : RecordedAs history outcome' approval') : outcome = outcome' := by
  obtain ⟨e, he, rfl⟩ := h.ending
  obtain ⟨e', he', rfl⟩ := h'.ending
  rw [List.singleton_inj.1 (he.symm.trans he')]

theorem RecordedAs.OfAnswer.not_rejected {history : List Observation}
    {answer : Except CallFailure Nat} {approval : ApprovalState}
    (h : RecordedAs.OfAnswer history answer) : ¬RecordedAs history .rejected approval := by
  intro hrejected
  cases answer with
  | ok rowsAffected => exact nomatch RecordedAs.outcome_unique h hrejected
  | error failure => exact nomatch RecordedAs.outcome_unique h hrejected

/-- A statement whose thread came to its end is recorded by what it came to exactly if its request was
not given up. Otherwise it is recorded as rejected and its approval is left open, though it was
executed. -/
theorem finished_recorded_iff {actions : List ServiceAction} {i : Nat} {f : Flight}
    {answer : Except CallFailure Nat}
    (hf : (Service.after g actions).traffic.flights[i]? = some f) (hended : f.phase = .ended)
    (hfinished : (Service.after g actions).finished.lookup i = some answer) :
    (RecordedAs.OfAnswer ((Service.after g actions).traffic.history i) answer ↔
      .abandoned ∉ (Service.after g actions).traffic.history i) ∧
    (.abandoned ∈ (Service.after g actions).traffic.history i →
      RecordedAs ((Service.after g actions).traffic.history i) .rejected .approved) := by
  obtain ⟨⟨traffic, htraffic⟩, hcalled, hanswered⟩ := Service.faithful_after g actions
  obtain ⟨call, hcall⟩ := hcalled i answer hfinished
  have htold := hanswered i
  rw [htraffic] at hf hcall htold ⊢
  obtain ⟨hreturned, habandoned⟩ := execution_recorded hf hcall
  refine ⟨⟨fun hrecorded hmem => hrecorded.not_rejected (habandoned hmem), fun hmem => ?_⟩, habandoned⟩
  obtain ⟨result, hresult⟩ := ((Traffic.ended_iff hf).1 hended).resolve_right hmem
  obtain ⟨answer', elapsed, hanswer, hrecorded⟩ := hreturned result hresult
  have hsame : some answer' = some answer := (htold call answer' elapsed hanswer).symm.trans hfinished
  rwa [Option.some.inj hsame] at hrecorded

/-- What becomes of a deletion that was approved and is executed. -/
def deletionService (actions : List ServiceAction) : Service :=
  Service.after deletionGateway
    ((Action.submit deletion :: approvedMoves).map ServiceAction.act ++ actions)

theorem deletionService_eq (actions : List ServiceAction) :
    deletionService actions = (approvedMoves.map ServiceAction.act ++ actions).foldl
      (Service.act deletionGateway)
        ⟨⟨0, 2, [.ofWrite "req-1" deletion], []⟩, []⟩ := by
  have hclass : classify deletion.sql = .ok .write := by decide +kernel
  have hsubmit : Traffic.start.act deletionGateway (.submit deletion) =
      ⟨0, 2, [.ofWrite "req-1" deletion], []⟩ :=
    Traffic.act_submit_of_write hclass (.inl rfl) (by decide) _
  rw [← hsubmit]
  rfl

/-- The deletion whose request waits until its three rows are deleted. -/
def awaitedDeletion : Service :=
  deletionService <| .finish 0 (.ok 3) ::
    ([.answer (.execute ⟨"main", "DELETE FROM t", KeyMap.empty⟩) (.ok 3), .proceed, .proceed,
      .proceed, .proceed].map fun move => .act (.move 0 move))

/-- The deletion whose request is given up before its three rows are deleted. -/
def orphanedDeletion : Service :=
  deletionService [.act (.move 0 .abandon), .finish 0 (.ok 3)]

/-- Both deletions came to their end, and the one that was awaited is recorded by it. -/
theorem deletions_finished_recorded :
    ∃ f f', awaitedDeletion.traffic.flights[0]? = some f ∧ f.phase = .ended ∧
      awaitedDeletion.finished.lookup 0 = some (.ok 3) ∧
      RecordedAs.OfAnswer (awaitedDeletion.traffic.history 0) (.ok 3) ∧
      orphanedDeletion.traffic.flights[0]? = some f' ∧ f'.phase = .ended ∧
      orphanedDeletion.finished.lookup 0 = some (.ok 3) ∧
      RecordedAs (orphanedDeletion.traffic.history 0) .rejected .approved := by
  have hawaited : ∃ f, awaitedDeletion.traffic.flights[0]? = some f ∧ f.phase = .ended ∧
      awaitedDeletion.finished.lookup 0 = some (.ok 3) ∧
      .abandoned ∉ awaitedDeletion.traffic.history 0 := by
    rw [awaitedDeletion, deletionService_eq]
    refine ⟨_, rfl, rfl, rfl, ?_⟩
    change _ ∉ [_, _, _, _, _, _, _, _, _, _, _, _, _, _]
    simp
  have horphaned : ∃ f, orphanedDeletion.traffic.flights[0]? = some f ∧ f.phase = .ended ∧
      orphanedDeletion.finished.lookup 0 = some (.ok 3) ∧
      .abandoned ∈ orphanedDeletion.traffic.history 0 := by
    rw [orphanedDeletion, deletionService_eq]
    exact ⟨_, rfl, rfl, rfl, List.mem_of_getElem? (i := 9) rfl⟩
  obtain ⟨f, hf, hended, hfinished, hawaited⟩ := hawaited
  obtain ⟨f', hf', hended', hfinished', horphaned⟩ := horphaned
  exact ⟨f, f', hf, hended, hfinished, (finished_recorded_iff hf hended hfinished).1.2 hawaited,
    hf', hended', hfinished', (finished_recorded_iff hf' hended' hfinished').2 horphaned⟩

/-- The rows are deleted, and the request that had them deleted is recorded as rejected, its approval
without an end. -/
theorem orphanedDeletion_rejected :
    ∃ f e, orphanedDeletion.traffic.flights[0]? = some f ∧ f.phase = .ended ∧
      orphanedDeletion.finished.lookup 0 = some (.ok 3) ∧
      (orphanedDeletion.traffic.history 0).filterMap Observation.ending? = [e] ∧
      e.outcome = .rejected ∧ e.approved = some true ∧ e.errorKind = some "abandoned" ∧
      (orphanedDeletion.traffic.history 0).filterMap Observation.approvalStep? =
        [.proposed, .pending, .approved] := by
  rw [orphanedDeletion, deletionService_eq]
  exact ⟨_, _, rfl, rfl, rfl, rfl, rfl, rfl, rfl, rfl⟩

end StatementGate
