import Mathlib.Data.List.Destutter
import StatementGate.Proofs.Gateway.Closing

/-! # The states of requests

Every state that the handling of a request enters, and the outcome that its event records, is a
permitted step from the state before it. Giving a request up puts it into the state of rejected
requests from wherever it waits; from the read of a database that is no permitted step, and it is
the only one. -/

namespace StatementGate

variable {Connection : Type} {g : OpenGateway Connection} {window : Nat}
  {history : List Observation}

namespace RequestState

def isFinal : RequestState → Bool
  | .succeeded | .rejected | .failed => true
  | _ => false

theorem ne_of_canTransition {s s' : RequestState} (h : s.canTransition s' = true) : s ≠ s' := by
  rintro rfl
  cases s <;> cases h

theorem eq_received_of_canTransition {s : RequestState}
    (h : s.canTransition .readExecuting = true) : s = .received := by
  cases s with
  | received => rfl
  | _ => cases h

theorem canTransition_received (s : RequestState) : s.canTransition .received = false := by
  cases s <;> rfl

end RequestState

/-- The state that a request is put into: one it enters, or the outcome that is recorded. -/
def Observation.state? : Observation → Option RequestState
  | .noted (.entered state) => some state
  | .noted (.recorded (.execute e)) => some e.outcome
  | _ => none

/-- The states that a request goes through from a state on. -/
def statesFrom (s : RequestState) (history : List Observation) : List RequestState :=
  (history.filterMap Observation.state?).destutter' (· ≠ ·) s

/-- The states that a request goes through from its receipt up to the outcome that is recorded. -/
def lifecycle (history : List Observation) : List RequestState := statesFrom .received history

/-- Each state is a permitted successor of the one before it. -/
def IsLifecycle (states : List RequestState) : Prop :=
  states.IsChain fun s s' => s.canTransition s' = true

/-- The request was given up while a database was asked for its rows. -/
def GivenUpReading (history : List Observation) : Prop :=
  ∃ call, [.called (.query call), .abandoned] <:+: history

section History

variable {s s' : RequestState} {o : Observation}

theorem statesFrom_silent (h : o.state? = none) :
    statesFrom s (o :: history) = statesFrom s history := by
  simp [statesFrom, h]

theorem statesFrom_step (h : o.state? = some s') (hne : s ≠ s') :
    statesFrom s (o :: history) = s :: statesFrom s' history := by
  simp [statesFrom, h, hne]

theorem statesFrom_stay (h : o.state? = some s) :
    statesFrom s (o :: history) = statesFrom s history := by
  simp [statesFrom, h]

theorem head?_statesFrom (s : RequestState) (history : List Observation) :
    (statesFrom s history).head? = some s := by
  induction history generalizing s with
  | nil => rfl
  | cons o history ih =>
    cases ho : o.state? with
    | none => rw [statesFrom_silent ho, ih]
    | some s' =>
      by_cases hs : s = s'
      · rw [statesFrom_stay (hs ▸ ho), ih]
      · rw [statesFrom_step ho hs, List.head?_cons]

theorem head?_of_statesFrom {before : List RequestState} {last : RequestState}
    (h : statesFrom s history = before ++ [s']) (hlast : before.getLast? = some last) :
    before.head? = some s := by
  have hhead := head?_statesFrom s history
  cases before with
  | nil => cases hlast
  | cons => simpa [h] using hhead

theorem isLifecycle_step {states : List RequestState} (h : states.head? = some s') :
    IsLifecycle (s :: states) ↔ s.canTransition s' = true ∧ IsLifecycle states := by
  simp [IsLifecycle, List.isChain_cons, h]

theorem isLifecycle_last {states : List RequestState}
    (h : IsLifecycle (states ++ [s'])) (hlast : states.getLast? = some s) :
    IsLifecycle states ∧ s.canTransition s' = true := by
  rw [IsLifecycle, List.isChain_append] at h
  exact ⟨h.1, h.2.2 s hlast s' rfl⟩

/-- A database is asked as soon as a request is received. -/
theorem eq_of_isLifecycle {states : List RequestState} (h : IsLifecycle states)
    (hhead : states.head? = some .received) (hlast : states.getLast? = some .readExecuting) :
    states = [.received, .readExecuting] := by
  obtain ⟨before, rfl⟩ := List.getLast?_eq_some_iff.1 hlast
  -- from the end: what comes before the read is the receipt, and nothing comes before that
  rcases List.eq_nil_or_concat' before with rfl | ⟨before, s, rfl⟩
  · cases hhead
  · obtain ⟨h, hread⟩ := isLifecycle_last h List.getLast?_concat
    obtain rfl := RequestState.eq_received_of_canTransition hread
    rcases List.eq_nil_or_concat' before with rfl | ⟨before, s, rfl⟩
    · rfl
    · have hreceived := (isLifecycle_last h List.getLast?_concat).2
      rw [RequestState.canTransition_received] at hreceived
      cases hreceived

theorem givenUpReading_noted (n : Note) :
    GivenUpReading (.noted n :: history) ↔ GivenUpReading history := by
  simp [GivenUpReading, List.infix_cons_iff]

theorem givenUpReading_answered (w : Wait) (answer : w.Answer) (elapsed : Nat) :
    GivenUpReading (.called w :: .answered w answer elapsed :: history) ↔
      GivenUpReading history := by
  simp [GivenUpReading, List.infix_cons_iff]

theorem givenUpReading_abandoned (w : Wait) (notes : List Note) :
    GivenUpReading (.called w :: .abandoned :: notes.map .noted) ↔ ∃ call, w = .query call := by
  have hnotes (call : DatabaseCall) :
      ¬[.called (.query call), .abandoned] <:+: notes.map Observation.noted := by
    intro h
    simpa using h.subset List.mem_cons_self
  simp [GivenUpReading, List.infix_cons_iff, hnotes, eq_comm]

end History

/-- Every note of the program puts the request into a permitted state, up to a final one that its
event records, and from every wait but the one for a read it may be rejected. -/
inductive Program.Lives : RequestState → Program ExecutionResult → Prop
  | ending {s : RequestState} {e : ExecuteEvent} (result : ExecutionResult) :
    s = e.outcome ∨ s.canTransition e.outcome = true → e.outcome.isFinal = true →
    Lives s (.note (.recorded (.execute e)) (.done result))
  | entered {s s' : RequestState} {next : Program ExecutionResult} :
    s.canTransition s' = true → Lives s' next → Lives s (.note (.entered s') next)
  | approval {s : RequestState} (e : ApprovalEvent) {next : Program ExecutionResult} :
    Lives s next → Lives s (.note (.recorded (.approval e)) next)
  | wait {s : RequestState} {w : Wait} {notes : List Note}
      {next : w.Answer → Program ExecutionResult} {e : ExecuteEvent} :
    (notes.map Observation.noted).filterMap Observation.state? = [.rejected] →
    (notes.map Observation.noted).filterMap Observation.ending? = [e] → e.outcome = .rejected →
    (∃ call, w = .query call) ∧ s = .readExecuting ∨
      (¬∃ call, w = .query call) ∧ s.canTransition .rejected = true →
    (∀ answer, Lives s (next answer)) → Lives s (.wait w notes next)

/-- What was seen of a request from a state on is a way through the states, unless it was given up
while its read was executed: then it is such a way up to there. -/
structure LivedFrom (s : RequestState) (history : List Observation) : Prop where
  legal : ¬GivenUpReading history → IsLifecycle (statesFrom s history)
  givenUp : GivenUpReading history → ∃ before, statesFrom s history = before ++ [.rejected] ∧
    IsLifecycle before ∧ before.getLast? = some .readExecuting
  outcome : ∀ e ∈ history.filterMap Observation.ending?,
    (statesFrom s history).getLast? = some e.outcome ∧ e.outcome.isFinal = true

namespace LivedFrom

variable {s s' : RequestState} {n : Note}

theorem of_still (hstates : statesFrom s history = [s]) (hreads : ¬GivenUpReading history)
    (hending : history.filterMap Observation.ending? = []) : LivedFrom s history := by
  constructor
  · simp [hstates, IsLifecycle]
  · exact fun h => absurd h hreads
  · simp [hending]

theorem nil (s : RequestState) : LivedFrom s [] :=
  of_still rfl (by simp [GivenUpReading]) rfl

theorem called (s : RequestState) (w : Wait) : LivedFrom s [.called w] :=
  of_still (statesFrom_silent rfl) (by simp [GivenUpReading, List.infix_cons_iff]) rfl

theorem returned (s : RequestState) (result : ExecutionResult) : LivedFrom s [.returned result] :=
  of_still (statesFrom_silent rfl) (by simp [GivenUpReading, List.infix_cons_iff]) rfl

/-- An event that is recorded last tells the state that the request is in then. -/
def Tells (n : Note) (states : List RequestState) : Prop :=
  ∀ e, (Observation.noted n).ending? = some e →
    states.getLast? = some e.outcome ∧ e.outcome.isFinal = true

theorem tells_of_silent {states : List RequestState} (h : (Observation.noted n).ending? = none) :
    Tells n states := by
  intro e he
  rw [h] at he
  cases he

theorem outcome_noted (h : LivedFrom s history) (hlast : Tells n (statesFrom s history)) :
    ∀ e ∈ (Observation.noted n :: history).filterMap Observation.ending?,
      (statesFrom s history).getLast? = some e.outcome ∧ e.outcome.isFinal = true := by
  intro e he
  cases hn : (Observation.noted n).ending? with
  | none => exact h.outcome e (by rwa [List.filterMap_cons_none hn] at he)
  | some e' =>
    rw [List.filterMap_cons_some hn, List.mem_cons] at he
    rcases he with rfl | he
    · exact hlast e hn
    · exact h.outcome e he

theorem stays (h : LivedFrom s history)
    (hstates : statesFrom s (.noted n :: history) = statesFrom s history)
    (hlast : Tells n (statesFrom s history)) : LivedFrom s (.noted n :: history) := by
  constructor
  · rw [givenUpReading_noted, hstates]
    exact h.legal
  · rw [givenUpReading_noted, hstates]
    exact h.givenUp
  · rw [hstates]
    exact h.outcome_noted hlast

theorem steps (h : LivedFrom s' history) (hcan : s.canTransition s' = true)
    (hstate : (Observation.noted n).state? = some s') (hlast : Tells n (statesFrom s' history)) :
    LivedFrom s (.noted n :: history) := by
  have hstates : statesFrom s (.noted n :: history) = s :: statesFrom s' history :=
    statesFrom_step hstate (RequestState.ne_of_canTransition hcan)
  have hhead := head?_statesFrom s' history
  constructor
  · rw [givenUpReading_noted, hstates, isLifecycle_step hhead]
    intro hnot
    exact ⟨hcan, h.legal hnot⟩
  · rw [givenUpReading_noted, hstates]
    intro hgivenUp
    obtain ⟨before, hbefore, hlegal, hlast⟩ := h.givenUp hgivenUp
    have hhead' := head?_of_statesFrom hbefore hlast
    refine ⟨s :: before, by rw [hbefore, List.cons_append], ?_, ?_⟩
    · exact (isLifecycle_step hhead').2 ⟨hcan, hlegal⟩
    · rw [List.getLast?_cons, hlast, Option.getD_some]
  · intro e he
    obtain ⟨hlast, hfinal⟩ := h.outcome_noted hlast e he
    rw [hstates, List.getLast?_cons, hlast, Option.getD_some]
    exact ⟨rfl, hfinal⟩

theorem ended {e : ExecuteEvent} (hstep : s = e.outcome ∨ s.canTransition e.outcome = true)
    (hfinal : e.outcome.isFinal = true) {rest : List Observation}
    (hrest : LivedFrom e.outcome rest) (hstates : statesFrom e.outcome rest = [e.outcome]) :
    LivedFrom s (.noted (.recorded (.execute e)) :: rest) := by
  have hlast : Tells (.recorded (.execute e)) (statesFrom e.outcome rest) := by
    intro e' he'
    cases he'
    simp [hstates, hfinal]
  rcases hstep with rfl | hcan
  · exact hrest.stays (statesFrom_stay rfl) hlast
  · exact hrest.steps hcan rfl hlast

theorem answered (h : LivedFrom s history) (w : Wait) (answer : w.Answer) (elapsed : Nat) :
    LivedFrom s (.called w :: .answered w answer elapsed :: history) := by
  have hstates : statesFrom s (.called w :: .answered w answer elapsed :: history) =
      statesFrom s history :=
    (statesFrom_silent rfl).trans (statesFrom_silent rfl)
  constructor
  · rw [givenUpReading_answered, hstates]
    exact h.legal
  · rw [givenUpReading_answered, hstates]
    exact h.givenUp
  · rw [hstates]
    exact h.outcome

theorem abandoned {w : Wait} {notes : List Note} {e : ExecuteEvent}
    (hstates : (notes.map Observation.noted).filterMap Observation.state? = [.rejected])
    (hending : (notes.map Observation.noted).filterMap Observation.ending? = [e])
    (hrejected : e.outcome = .rejected)
    (hleaves : (∃ call, w = .query call) ∧ s = .readExecuting ∨
      (¬∃ call, w = .query call) ∧ s.canTransition .rejected = true) :
    LivedFrom s (.called w :: .abandoned :: notes.map .noted) := by
  have hne : s ≠ .rejected := by
    rcases hleaves with ⟨_, rfl⟩ | ⟨_, hcan⟩
    · decide
    · exact RequestState.ne_of_canTransition hcan
  have hstates : statesFrom s (.called w :: .abandoned :: notes.map .noted) = [s, .rejected] := by
    rw [statesFrom_silent rfl, statesFrom_silent rfl, statesFrom, hstates]
    simp [hne]
  constructor
  · rw [givenUpReading_abandoned, hstates]
    intro hnot
    have hcan := (hleaves.resolve_left fun h => hnot h.1).2
    simpa [IsLifecycle] using hcan
  · rw [givenUpReading_abandoned, hstates]
    intro hquery
    obtain rfl := (hleaves.resolve_right fun h => h.1 hquery).2
    exact ⟨[.readExecuting], rfl, by simp [IsLifecycle], rfl⟩
  · intro e' he'
    have he' : e' ∈ (notes.map Observation.noted).filterMap Observation.ending? := by
      simpa [Observation.ending?] using he'
    rw [hending, List.mem_singleton] at he'
    rw [hstates, he', hrejected]
    exact ⟨rfl, rfl⟩

end LivedFrom

theorem Program.Lives.livedFrom {p : Program ExecutionResult} {s : RequestState} (h : p.Lives s)
    (hallows : p.Allows window history) : LivedFrom s history := by
  induction h generalizing history with
  | ending result hstep hfinal =>
    cases hallows with
    | start => exact .nil _
    | noted _ hallows =>
      cases hallows with
      | start => exact LivedFrom.ended hstep hfinal (.nil _) rfl
      | returned => exact LivedFrom.ended hstep hfinal (.returned _ _) (statesFrom_silent rfl)
  | entered hcan _ ih =>
    cases hallows with
    | start => exact .nil _
    | noted _ hallows => exact (ih hallows).steps hcan rfl (LivedFrom.tells_of_silent rfl)
  | approval e _ ih =>
    cases hallows with
    | start => exact .nil _
    | noted _ hallows =>
      exact (ih hallows).stays (statesFrom_silent rfl) (LivedFrom.tells_of_silent rfl)
  | wait hstates hending hrejected hleaves _ ih =>
    cases hallows with
    | start => exact .nil _
    | called => exact .called _ _
    | answered answer elapsed _ hallows => exact (ih answer hallows).answered _ _ _
    | abandoned => exact .abandoned hstates hending hrejected hleaves

namespace RequestTrace

variable {t : RequestTrace}

theorem lives_finish (t : RequestTrace) {s outcome : RequestState}
    (hstep : s = outcome ∨ s.canTransition outcome = true) (hfinal : outcome.isFinal = true)
    (result : ExecutionResult) (errorKind : Option String) :
    (t.finish outcome result errorKind).Lives s :=
  .ending result hstep hfinal

theorem lives_fail (t : RequestTrace) {s : RequestState} (h : s.canTransition .failed = true)
    (error : GatewayError) : (t.fail error).Lives s :=
  t.lives_finish (.inr h) rfl _ _

theorem lives_reject {s : RequestState} (ht : t.state = s) (h : s.canTransition .rejected = true)
    (error : Option String) : (t.reject error).Lives s := by
  rw [reject_eq (ht ▸ h)]
  exact .entered h (lives_finish _ (.inl rfl) rfl _ _)

end RequestTrace

/-- A review goes through the states that follow it. -/
theorem ApprovalRequest.lives_reviewed (r : ApprovalRequest) (t : RequestTrace)
    {go : ApprovalSession → Program ExecutionResult}
    (hgo : ∀ session, (go session).Lives .awaitingApproval) :
    (r.reviewed t.abandonment go).Lives .awaitingApproval := by
  refine .approval _ (.wait rfl rfl rfl (.inr ⟨by simp, rfl⟩) fun surfaced => ?_)
  cases surfaced with
  | error failure => exact .approval _ (hgo _)
  | ok => exact .approval _ (.wait rfl rfl rfl (.inr ⟨by simp, rfl⟩) fun verdict =>
      .approval _ (hgo _))

namespace Gateway

variable {t : RequestTrace}

theorem lives_read (g : Gateway) (ht : t.state = .received) : (g.read t).Lives .received := by
  rw [g.read_eq ht]
  refine .entered rfl (.wait rfl rfl rfl (.inl ⟨⟨_, rfl⟩, rfl⟩) fun answer => ?_)
  cases answer with
  | error failure => exact RequestTrace.lives_fail _ rfl _
  | ok output =>
    simp only [afterQuery]
    cases g.sanitizers.sanitize output with
    | error error => exact RequestTrace.lives_fail _ rfl _
    | ok rows =>
      dsimp only
      cases rows.mapM Row.encode with
      | error error => exact RequestTrace.lives_fail _ rfl _
      | ok rows => exact .entered rfl (RequestTrace.lives_finish _ (.inl rfl) rfl _ _)

theorem lives_execute {session : ApprovalSession} (ht : t.state = .awaitingApproval)
    (hsession : session.state = .approved) : (execute t session).Lives .awaitingApproval := by
  rw [execute_eq ht hsession]
  refine .wait rfl rfl rfl (.inr ⟨by simp, rfl⟩) fun answer => ?_
  cases answer with
  | ok rowsAffected =>
    exact .approval _ (.entered rfl (RequestTrace.lives_finish _ (.inl rfl) rfl _ _))
  | error failure => exact .approval _ (RequestTrace.lives_fail _ rfl _)

theorem lives_write (readOnly : Bool) (ht : t.state = .received) :
    (write t readOnly).Lives .received := by
  cases hcontext : t.request.approvalContext with
  | none =>
    rw [write_of_no_context hcontext]
    exact RequestTrace.lives_reject ht rfl _
  | some context =>
    cases readOnly with
    | true =>
      rw [write_of_readOnly hcontext]
      exact t.lives_fail rfl _
    | false =>
      rw [write_eq ht hcontext]
      refine .entered rfl (ApprovalRequest.lives_reviewed _ _ fun session => ?_)
      by_cases hsession : session.isApproved = true
      · rw [if_pos hsession]
        exact lives_execute rfl (eq_of_beq hsession)
      · rw [if_neg hsession]
        apply RequestTrace.lives_reject <;> rfl

theorem lives_handle (g : Gateway) (id : String) (request : ExecuteRequest) :
    (g.handle id request).Lives .received := by
  rcases g.handle_routes id request with ⟨_, _, h⟩ | ⟨_, _, h⟩ | ⟨_, readOnly, _, _, _, h⟩ |
    ⟨_, _, h⟩
  · rw [h]
    exact RequestTrace.lives_fail _ rfl _
  · rw [h]
    exact RequestTrace.lives_fail _ rfl _
  · rw [h]
    exact lives_write readOnly rfl
  · rw [h]
    exact g.lives_read rfl

end Gateway

/-- The states of a request are a way through the states of requests, unless it was given up while
its read was executed. Once it has ended, they end with the outcome that its one event records. -/
structure Traffic.LifecycleOf (t : Traffic) (i : Nat) (f : Flight) : Prop where
  legal_iff : IsLifecycle (lifecycle (t.history i)) ↔ ¬GivenUpReading (t.history i)
  givenUp : GivenUpReading (t.history i) →
    lifecycle (t.history i) = [.received, .readExecuting, .rejected]
  outcome : f.phase = .ended → ∃ e, (t.history i).filterMap Observation.ending? = [e] ∧
    (lifecycle (t.history i)).getLast? = some e.outcome ∧ e.outcome.isFinal = true

/-- The lifecycle of every request, whatever happens beside it and wherever it is given up. -/
theorem lifecycle_unless_read_givenUp {actions : List Action} {i : Nat} {f : Flight}
    (hf : (Traffic.after g actions).flights[i]? = some f) :
    (Traffic.after g actions).LifecycleOf i f := by
  have hallows := Traffic.history_allowed hf
  have hlived := (g.gateway.lives_handle f.id f.request).livedFrom hallows
  have hread : GivenUpReading ((Traffic.after g actions).history i) →
      lifecycle ((Traffic.after g actions).history i) =
        [.received, .readExecuting, .rejected] := by
    intro hgivenUp
    obtain ⟨before, hbefore, hlegal, hlast⟩ := hlived.givenUp hgivenUp
    have hhead := head?_of_statesFrom hbefore hlast
    rw [lifecycle, hbefore, eq_of_isLifecycle hlegal hhead hlast]
    rfl
  refine ⟨⟨fun hlegal hgivenUp => ?_, hlived.legal⟩, hread, fun hended => ?_⟩
  · rw [hread hgivenUp] at hlegal
    simp [IsLifecycle, RequestState.canTransition] at hlegal
  · have hclosed := (g.gateway.closes_handle f.id f.request).closedBy hallows
    have hevent : ∃ e,
        ((Traffic.after g actions).history i).filterMap Observation.ending? = [e] := by
      rcases (Traffic.ended_iff hf).1 hended with ⟨result, hresult⟩ | habandoned
      · obtain ⟨e, he, _⟩ := hclosed.returned result hresult
        exact ⟨e, he⟩
      · obtain ⟨e, he, _⟩ := hclosed.abandoned habandoned
        exact ⟨e, he⟩
    obtain ⟨e, he⟩ := hevent
    exact ⟨e, he, hlived.outcome e (by simp [he])⟩

/-- The executed deletion awaited its approval and succeeded. -/
theorem deletion_lifecycle :
    ∃ f, deletions.flights[0]? = some f ∧ f.phase = .ended ∧
      lifecycle (deletions.history 0) = [.received, .awaitingApproval, .succeeded] ∧
      deletions.LifecycleOf 0 f := by
  have hdone : ∃ f, deletions.flights[0]? = some f ∧ f.phase = .ended ∧
      lifecycle (deletions.history 0) = [.received, .awaitingApproval, .succeeded] := by
    rw [deletions, after_deletions]
    exact ⟨_, rfl, rfl, rfl⟩
  obtain ⟨f, hf, hended, hstates⟩ := hdone
  exact ⟨f, hf, hended, hstates, lifecycle_unless_read_givenUp hf⟩

def selection : ExecuteRequest :=
  ⟨"SELECT a FROM t", KeyMap.empty, "main", false, none, none⟩

/-- The traffic of a read that is given up while the database is asked. -/
def selectionGivenUp : Traffic :=
  Traffic.after deletionGateway
    (.submit selection :: [.proceed, .proceed, .abandon].map (.move 0))

/-- A read that is given up while it is executed is recorded as rejected, which does not follow the
execution of a read. -/
theorem selectionGivenUp_illegal :
    ∃ f e, selectionGivenUp.flights[0]? = some f ∧ f.phase = .ended ∧
      (selectionGivenUp.history 0).filterMap Observation.ending? = [e] ∧ e.outcome = .rejected ∧
      lifecycle (selectionGivenUp.history 0) = [.received, .readExecuting, .rejected] ∧
      ¬IsLifecycle (lifecycle (selectionGivenUp.history 0)) := by
  have hclass : classify selection.sql = .ok .read := by decide +kernel
  have hmain : deletionGateway.gateway.databases.get? selection.databaseId = some false := by decide
  have hrun : selectionGivenUp = [.proceed, .proceed, .abandon].foldl
      (fun t move => t.act deletionGateway (.move 0 move))
      ⟨0, 2, [⟨"req-1", selection, .running (deletionGateway.gateway.read
        { RequestTrace.received "req-1" selection with statement := some .read })⟩], []⟩ := by
    rw [← Gateway.handle_of_read deletionGateway.gateway "req-1" hclass rfl hmain]
    rfl
  rw [hrun]
  refine ⟨_, _, rfl, rfl, rfl, rfl, rfl, ?_⟩
  have hstates : ¬IsLifecycle [.received, .readExecuting, .rejected] := by
    simp [IsLifecycle, RequestState.canTransition]
  exact hstates

end StatementGate
