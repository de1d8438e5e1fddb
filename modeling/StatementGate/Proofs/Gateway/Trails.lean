import StatementGate.Proofs.Approval.Gate
import StatementGate.Proofs.Gateway.Identity

/-! # The approval trails of requests

The handling of a request takes only permitted steps of its approval, so in any traffic the approval
events of a request are a legal trail. A request that is done leaves an approval that is over, or
none, unless it is given up while its approved statement is executed. -/

namespace StatementGate

variable {window : Nat} {id : String}

/-- Where an approval may stand when its request is given up at a wait. -/
def Wait.MayLeave (w : Wait) (state : Option ApprovalState) : Prop :=
  state = none ∨ IsOver state ∨ state = some .approved ∧ ∃ call, w = .execute call

/-- Where an approval may stand when its request returns. -/
def MayReturn (state : Option ApprovalState) (_ : ExecutionResult) : Prop :=
  state = none ∨ IsOver state

/-- The program takes only permitted steps of the approval, and then returns or is given up where it
may be. -/
abbrev Program.KeepsTrail (id : String) (s : Standing) (p : Program ExecutionResult) : Prop :=
  p.Audited id Wait.MayLeave MayReturn s

namespace RequestTrace

variable {s : Standing}

theorem approval?_abandonment (t : RequestTrace) :
    ∀ n ∈ t.abandonment, (Observation.noted n).approval? = none := by
  simp [abandonment, event, Observation.approval?]

theorem keepsTrail_finish (t : RequestTrace) (outcome : RequestState) (result : ExecutionResult)
    (errorKind : Option String) (h : MayReturn s.state result) :
    (t.finish outcome result errorKind).KeepsTrail id s :=
  .silent rfl h

theorem keepsTrail_fail (t : RequestTrace) (error : GatewayError)
    (h : s.state = none ∨ IsOver s.state) : (t.fail error).KeepsTrail id s :=
  t.keepsTrail_finish .failed _ _ h

theorem keepsTrail_enter {t : RequestTrace} {next : RequestState}
    {go : RequestTrace → Program ExecutionResult} (h : t.state.canTransition next = true)
    (hgo : (go { t with state := next }).KeepsTrail id s) : (t.enter next go).KeepsTrail id s := by
  rw [enter_of_canTransition h]
  exact .silent rfl hgo

theorem keepsTrail_reject {t : RequestTrace} (ht : t.state.canTransition .rejected = true)
    (error : Option String) (h : s.state = none ∨ IsOver s.state) :
    (t.reject error).KeepsTrail id s :=
  keepsTrail_enter ht (keepsTrail_finish _ _ _ _ h)

/-- A request that is given up takes no step of its approval by itself. -/
theorem keepsTrail_wait (t : RequestTrace) (w : Wait) {next : w.Answer → Program ExecutionResult}
    (h : w.MayLeave s.state)
    (hnext : ∀ answer, (next answer).KeepsTrail id ⟨s.surfaced || w.surfaces id answer, s.state⟩) :
    (Program.wait w t.abandonment next).KeepsTrail id s := by
  have hsilent : ∀ o ∈ t.abandonment.map Observation.noted, o.approval? = none := by
    simpa using t.approval?_abandonment
  refine ⟨⟨Standing.lawful_of_silent hsilent, ?_⟩, hnext⟩
  rwa [Standing.state_of_silent hsilent]

end RequestTrace

namespace Gateway

variable {s : Standing} {t : RequestTrace}

theorem keepsTrail_read (g : Gateway) (ht : t.state = .received) (hs : s.state = none) :
    (g.read t).KeepsTrail id s := by
  rw [g.read_eq ht]
  refine .silent rfl (t.keepsTrail_wait _ (.inl hs) fun answer => ?_)
  cases answer with
  | error failure => exact RequestTrace.keepsTrail_fail _ _ (.inl hs)
  | ok output =>
    simp only [afterQuery]
    cases g.sanitizers.sanitize output with
    | error error => exact RequestTrace.keepsTrail_fail _ _ (.inl hs)
    | ok rows =>
      dsimp only
      cases rows.mapM Row.encode with
      | error error => exact RequestTrace.keepsTrail_fail _ _ (.inl hs)
      | ok rows => exact .silent rfl (RequestTrace.keepsTrail_finish _ _ _ _ (.inl hs))

/-- The approval of an executed statement ends with the execution. -/
theorem keepsTrail_execute {session : ApprovalSession} (ht : t.state = .awaitingApproval)
    (hsession : session.state = .approved) (hstands : session.Stands id s) :
    (execute t session).KeepsTrail id s := by
  have happroved : s.state = some .approved := hsession ▸ hstands.state_eq
  rw [execute_eq ht hsession]
  refine t.keepsTrail_wait _ (.inr (.inr ⟨happroved, _, rfl⟩)) fun answer => ?_
  have hstands : session.Stands id ⟨s.surfaced || Wait.surfaces id (.execute t.call) answer, s.state⟩ :=
    ⟨hstands.requestId_eq, hstands.state_eq⟩
  cases answer with
  | ok rowsAffected =>
    refine .record (hsession ▸ hstands.permits (by rw [hsession]; rfl) (by simp)) (.silent rfl ?_)
    exact RequestTrace.keepsTrail_finish _ _ _ _ (.inr ⟨_, rfl, rfl⟩)
  | error failure =>
    refine .record (hsession ▸ hstands.permits (by rw [hsession]; rfl) (by simp)) ?_
    exact RequestTrace.keepsTrail_fail _ _ (.inr ⟨_, rfl, rfl⟩)

theorem keepsTrail_write (readOnly : Bool) (hid : t.id = id) (ht : t.state = .received) :
    (write t readOnly).KeepsTrail id .start := by
  subst hid
  cases hcontext : t.request.approvalContext with
  | none =>
    rw [write_of_no_context hcontext]
    exact RequestTrace.keepsTrail_reject (by rw [ht]; rfl) _ (.inl rfl)
  | some context =>
    cases readOnly with
    | true =>
      rw [write_of_readOnly hcontext]
      exact RequestTrace.keepsTrail_fail _ _ (.inl rfl)
    | false =>
      simp only [write, hcontext, Bool.false_eq_true, if_false]
      have hcan : t.state.canTransition .awaitingApproval = true := by rw [ht]; rfl
      refine RequestTrace.keepsTrail_enter hcan ?_
      have hreview := ApprovalRequest.audited_review
        ({ t with state := .awaitingApproval : RequestTrace }.approvalRequest context)
      refine (hreview.onAbandon (RequestTrace.approval?_abandonment _)).bind ?_ ?_
      · rintro w state rfl
        exact .inr (.inl ⟨_, rfl, rfl⟩)
      · intro s result hend
        cases result with
        | error error => exact hend.elim
        | ok session =>
          obtain ⟨hid, hstate, hdecided⟩ := hend
          dsimp only
          by_cases hsession : session.state = .approved
          · rw [if_pos (by simp [ApprovalSession.isApproved, hsession])]
            exact keepsTrail_execute rfl hsession ⟨hid, hstate⟩
          · rw [if_neg (by simpa [ApprovalSession.isApproved] using hsession)]
            refine RequestTrace.keepsTrail_reject rfl _ (.inr ⟨_, hstate, ?_⟩)
            rcases hdecided.resolve_left hsession with h | h <;> rw [h] <;> rfl

/-- The handling of a request takes only permitted steps of its approval. -/
theorem keepsTrail_handle (g : Gateway) (id : String) (request : ExecuteRequest) :
    (g.handle id request).KeepsTrail id .start := by
  rcases g.handle_cases id request with ⟨t, error, h⟩ | ⟨t, error, ht, h⟩ | ⟨_, _, h⟩ |
    ⟨_, _, _, _, _, _, h⟩
  · rw [h]
    exact t.keepsTrail_fail error (.inl rfl)
  · rw [h]
    exact RequestTrace.keepsTrail_reject (by rw [ht]; rfl) error (.inl rfl)
  · rw [h]
    exact keepsTrail_read g rfl rfl
  · rw [h]
    exact keepsTrail_write false (by rfl) (by rfl)

end Gateway

/-- What a request that is done leaves of its approval: nothing, an approval that is over, or one that
was granted when the request was given up during the execution. -/
def ClosedOrExecuting (history : List Observation) : Prop :=
  approvalTrail history = [] ∨ ∃ e, (approvalTrail history).getLast? = some e ∧
    (e.target.isTerminal = true ∨ e.target = .approved ∧
      ∃ (before : List Observation) (call : DatabaseCall) (notes : List Note),
        history = before ++ .called (.execute call) :: .abandoned :: notes.map .noted)

/-- What the phase of a request has to do with what was seen of it. -/
def Phase.KeepsTrail (id : String) (history : List Observation) : Phase → Prop
  | .running p => p.KeepsTrail id (Standing.start.after id history)
  | .waiting _ w notes next =>
    (Program.wait w notes next).KeepsTrail id (Standing.start.after id history) ∧
      ∃ before, history = before ++ [.called w]
  | .ended => ClosedOrExecuting history

section Step

variable {history seen : List Observation}

theorem ClosedOrExecuting.of_mayReturn (id : String)
    (h : (Standing.start.after id history).state = none ∨
      IsOver (Standing.start.after id history).state) : ClosedOrExecuting history := by
  rcases h with hnone | ⟨state, hstate, hterminal⟩
  · exact .inl (Standing.trail_eq_nil hnone)
  · obtain ⟨e, he, rfl⟩ := Standing.exists_last hstate
    exact .inr ⟨e, he, .inl hterminal⟩

/-- A step of a request records only permitted steps of its approval. -/
theorem Phase.Steps.keepsTrail {now : Nat} {phase phase' : Phase}
    (h : phase.Steps window now seen phase') (hkeeps : phase.KeepsTrail id history) :
    (Standing.start.after id history).Lawful id seen ∧ phase'.KeepsTrail id (history ++ seen) := by
  cases h with
  | returns result =>
    refine ⟨Standing.lawful_of_silent (by simp [Observation.approval?]), ?_⟩
    refine ClosedOrExecuting.of_mayReturn id ?_
    rw [Standing.after_append, Standing.state_of_silent (by simp [Observation.approval?])]
    exact hkeeps
  | notes n next =>
    refine ⟨⟨hkeeps.1, trivial⟩, ?_⟩
    rw [Phase.KeepsTrail, Standing.after_append]
    exact hkeeps.2
  | calls w notes next =>
    refine ⟨Standing.lawful_of_silent (by simp [Observation.approval?]), ?_, history, rfl⟩
    rw [Standing.after_append]
    simpa [Standing.after, Phase.KeepsTrail] using hkeeps
  | goesOn since notes next hadmits =>
    refine ⟨Standing.lawful_of_silent (by simp [Observation.approval?]), ?_⟩
    rw [Phase.KeepsTrail, Standing.after_append]
    simpa [Standing.after] using hkeeps.1.2 _
  | givenUp since w notes next =>
    obtain ⟨⟨⟨hlawful, hleave⟩, _⟩, before, rfl⟩ := hkeeps
    refine ⟨Standing.lawful_abandoned hlawful, ?_⟩
    have hstate : (Standing.start.after id
        (before ++ [.called w] ++ .abandoned :: notes.map .noted)).state =
        ((Standing.start.after id (before ++ [.called w])).after id (notes.map .noted)).state := by
      rw [Standing.after_append, Standing.after_abandoned]
    rw [← hstate] at hleave
    rcases hleave with hnone | hover | ⟨happroved, call, rfl⟩
    · exact ClosedOrExecuting.of_mayReturn id (.inl hnone)
    · exact ClosedOrExecuting.of_mayReturn id (.inr hover)
    · obtain ⟨e, he, htarget⟩ := Standing.exists_last happroved
      exact .inr ⟨e, he, .inr ⟨htarget, before, call, notes, by simp⟩⟩

end Step

namespace Traffic

variable {Connection : Type} {g : OpenGateway Connection}

/-- The approval of a request is on a legal way. -/
def OnTrail (f : Flight) (history : List Observation) : Prop :=
  Standing.start.Lawful f.id history ∧ f.phase.KeepsTrail f.id history

theorem onTrail_after (actions : List Action) :
    AllKeep OnTrail (after g actions).flights (after g actions).log := by
  refine allKeep_after (fun id request => ⟨trivial, g.gateway.keepsTrail_handle id request⟩) ?_ actions
  intro f history now seen phase ⟨hlawful, hkeeps⟩ hsteps
  obtain ⟨hseen, hphase⟩ := hsteps.keepsTrail hkeeps
  exact ⟨Standing.lawful_append.2 ⟨hlawful, hseen⟩, hphase⟩

/-- What is recorded of the approval of one request: a legal trail, and one that is closed in order
once the request is done. Under an identity that no other request has, nothing else is recorded; and
as long as their numbers do not wrap, no two requests have the same. -/
structure TrailOf (t : Traffic) (i : Nat) (f : Flight) : Prop where
  legal : LegalTrail f.id (t.history i)
  closed : f.phase = .ended → ClosedOrExecuting (t.history i)
  own : (∀ j f', t.flights[j]? = some f' → f'.id = f.id → j = i) →
    (approvalsOf t.log).filter (fun e => e.requestId = f.id) = approvalTrail (t.history i)
  alone : t.flights.length < UInt64.size →
    ∀ j f', t.flights[j]? = some f' → f'.id = f.id → j = i

theorem trailOf_after {actions : List Action} {i : Nat} {f : Flight}
    (hf : (after g actions).flights[i]? = some f) :
    (after g actions).TrailOf i f := by
  have hall : AllKeep OnTrail (after g actions).flights (after g actions).log :=
    onTrail_after actions
  obtain ⟨hlawful, hkeeps⟩ := hall.holds i f hf
  refine ⟨hlawful.legalTrail, fun hended => by rwa [hended] at hkeeps, fun hown => ?_,
    fun hfew j f' hf' h => id_injective hfew hf' hf h⟩
  have hsigned : AllKeep (fun f history =>
      ∀ e ∈ history.filterMap Observation.approval?, e.requestId = f.id)
      (after g actions).flights (after g actions).log :=
    hall.imp fun f history h => h.1.legalTrail.requestId_eq
  exact hsigned.filter_eq hf hown

end Traffic

/-- Whatever the operators answer and whenever, and wherever a review or an execution is given up: the
approval events of each review at a gate, and of each request in the traffic of a gateway, are a
legal trail of its own, and the trail is closed in order. -/
theorem approval_trails_legal :
    (∀ (window : Nat) (actions : List ReviewAction) (i : Nat) (r : Review),
      (Reviews.after window actions).reviews[i]? = some r →
      (Reviews.after window actions).TrailOf i r) ∧
    ∀ (Connection : Type) (g : OpenGateway Connection) (actions : List Action) (i : Nat)
      (f : Flight),
      (Traffic.after g actions).flights[i]? = some f →
      (Traffic.after g actions).TrailOf i f :=
  ⟨fun _ _ _ _ hr => Reviews.trailOf_after hr, fun _ _ _ _ _ hf => Traffic.trailOf_after hf⟩

/-- Two reviews that take turns: one statement is approved and executed, the other review is given up
while its decision is awaited. -/
def twoReviews : Reviews :=
  let other := { deletionApproval with requestId := "req-2" }
  Reviews.after 5
    [.review deletionApproval, .review other, .move 0 .proceed, .move 1 .proceed,
      .move 1 (.answer (.surface other) (.ok ())), .move 1 .proceed,
      .move 0 (.answer (.surface deletionApproval) (.ok ())), .move 0 .proceed,
      .move 0 (.answer (.decision "req-1") (.decided .approved)), .move 1 .drop,
      .move 0 .proceed, .move 0 .proceed, .move 0 .executed]

/-- The trails of the two reviews, and of two deletions of which one is executed and the other given
up. -/
theorem deletion_trails_legal :
    (∃ r r', twoReviews.reviews[0]? = some r ∧ twoReviews.reviews[1]? = some r' ∧
      r.phase = .gone ∧ r'.phase = .gone ∧
      (approvalTrail (twoReviews.history 0)).map ApprovalEvent.target =
        [.proposed, .pending, .approved, .executed] ∧
      (approvalTrail (twoReviews.history 1)).map ApprovalEvent.target =
        [.proposed, .pending, .abandoned] ∧
      twoReviews.TrailOf 0 r ∧ twoReviews.TrailOf 1 r') ∧
    ∃ f f', deletions.flights[0]? = some f ∧ deletions.flights[1]? = some f' ∧
      f.phase = .ended ∧ f'.phase = .ended ∧
      (approvalTrail (deletions.history 0)).map ApprovalEvent.target =
        [.proposed, .pending, .approved, .executed] ∧
      (approvalTrail (deletions.history 1)).map ApprovalEvent.target = [.proposed, .abandoned] ∧
      deletions.TrailOf 0 f ∧ deletions.TrailOf 1 f' := by
  constructor
  · exact ⟨_, _, rfl, rfl, rfl, rfl, rfl, rfl, approval_trails_legal.1 5 _ 0 _ rfl,
      approval_trails_legal.1 5 _ 1 _ rfl⟩
  · have hdone : ∃ f f', deletions.flights[0]? = some f ∧ deletions.flights[1]? = some f' ∧
        f.phase = .ended ∧ f'.phase = .ended ∧
        (approvalTrail (deletions.history 0)).map ApprovalEvent.target =
          [.proposed, .pending, .approved, .executed] ∧
        (approvalTrail (deletions.history 1)).map ApprovalEvent.target =
          [.proposed, .abandoned] := by
      rw [deletions, after_deletions]
      exact ⟨_, _, rfl, rfl, rfl, rfl, rfl, rfl⟩
    obtain ⟨f, f', hf, hf', hended, hended', htrail, htrail'⟩ := hdone
    exact ⟨f, f', hf, hf', hended, hended', htrail, htrail',
      approval_trails_legal.2 _ _ _ 0 f hf, approval_trails_legal.2 _ _ _ 1 f' hf'⟩

end StatementGate
