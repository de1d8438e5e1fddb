import Mathlib.Data.List.Chain
import StatementGate.Proofs.Gateway.Course
import StatementGate.Proofs.Gateway.Traffic

/-! # Approval trails

The recorded steps of an approval, and what makes them a way through its states. A trail is legal if
each step was one that the approval permitted where it stood; so it is enough to follow a program
with the standing of its approval. A review keeps to what is permitted, whoever answers and
wherever it is given up. -/

namespace StatementGate

variable {α β : Type} {id : String} {history : List Observation}

namespace ApprovalState

variable {source target : ApprovalState}

theorem isTerminal_of_canTransition (h : source.canTransition target = true) :
    source.isTerminal = false := by
  cases source <;> first | rfl | (cases target <;> cases h)

/-- An execution is the end of an approval that was granted. -/
theorem eq_approved_of_canTransition (h : source.canTransition target = true)
    (htarget : target = .executed ∨ target = .executionFailed) : source = .approved := by
  rcases htarget with rfl | rfl <;> cases source <;> first | rfl | cases h

end ApprovalState

/-- The recorded step of an approval. -/
def Observation.approval? : Observation → Option ApprovalEvent
  | .noted (.recorded (.approval e)) => some e
  | _ => none

theorem Observation.approval?_eq_some {o : Observation} {e : ApprovalEvent} :
    o.approval? = some e ↔ o = .noted (.recorded (.approval e)) := by
  constructor
  · intro h
    unfold approval? at h
    split at h
    · cases h
      rfl
    · cases h
  · rintro rfl
    rfl

/-- Whether an answer tells that the request was surfaced. -/
def Wait.surfaces (id : String) : (w : Wait) → w.Answer → Bool
  | .surface r, .ok _ => r.requestId == id
  | _, _ => false

def Observation.surfaces (id : String) : Observation → Bool
  | .answered w answer _ => w.surfaces id answer
  | _ => false

theorem Observation.exists_of_surfaces {o : Observation} (h : o.surfaces id = true) :
    ∃ r elapsed, r.requestId = id ∧ o = .answered (.surface r) (.ok ()) elapsed := by
  cases o with
  | answered w answer elapsed =>
    cases w with
    | surface r =>
      cases answer with
      | error error => cases h
      | ok => exact ⟨r, elapsed, eq_of_beq h, rfl⟩
    | query call => cases h
    | execute call => cases h
    | decision requestId => cases h
  | _ => cases h

/-- The steps of the approvals in a history. -/
def approvalTrail (history : List Observation) : List ApprovalEvent :=
  history.filterMap Observation.approval?

/-- The steps of all approvals that a log holds. -/
def approvalsOf (log : List (Nat × Observation)) : List ApprovalEvent :=
  log.filterMap fun entry => entry.2.approval?

theorem approvalTrail_cons_none {o : Observation} (h : o.approval? = none) :
    approvalTrail (o :: history) = approvalTrail history :=
  List.filterMap_cons_none h

theorem approvalTrail_cons_some {o : Observation} {e : ApprovalEvent} (h : o.approval? = some e) :
    approvalTrail (o :: history) = e :: approvalTrail history :=
  List.filterMap_cons_some h

/-- A step that goes on where the one before it led to. -/
structure ApprovalEvent.Follows (e e' : ApprovalEvent) : Prop where
  source_eq : e'.source = some e.target
  canTransition : e.target.canTransition e'.target = true
  open_before : e.target.isTerminal = false
  approved_before : e'.target = .executed ∨ e'.target = .executionFailed → e.target = .approved

/-- The approval events of a history are a way through the states of the approval of one request. -/
structure LegalTrail (id : String) (history : List Observation) : Prop where
  requestId_eq : ∀ e ∈ approvalTrail history, e.requestId = id
  proposed : ∀ e ∈ (approvalTrail history).head?, e.source = none ∧ e.target = .proposed
  follows : (approvalTrail history).IsChain ApprovalEvent.Follows
  surfaced : ∀ before e after, history = before ++ .noted (.recorded (.approval e)) :: after →
    e.target = .pending →
    ∃ r elapsed, r.requestId = id ∧ .answered (.surface r) (.ok ()) elapsed ∈ before

/-- The approval came to a state that nothing follows. -/
def IsOver (state : Option ApprovalState) : Prop := ∃ s, state = some s ∧ s.isTerminal = true

/-- How far an approval has come: whether its request was surfaced, and the state recorded last. -/
structure Standing where
  surfaced : Bool
  state : Option ApprovalState

namespace Standing

variable {s : Standing}

def start : Standing := ⟨false, none⟩

def see (id : String) (s : Standing) (o : Observation) : Standing :=
  ⟨s.surfaced || o.surfaces id, (o.approval?.map ApprovalEvent.target).or s.state⟩

def after (id : String) (s : Standing) (history : List Observation) : Standing :=
  history.foldl (see id) s

/-- The event may be recorded next. -/
structure Permits (id : String) (s : Standing) (e : ApprovalEvent) : Prop where
  requestId_eq : e.requestId = id
  source_eq : e.source = s.state
  first : s.state = none → e.target = .proposed
  step : ∀ state, s.state = some state → state.canTransition e.target = true
  surfaced : e.target = .pending → s.surfaced = true

/-- Each step that is recorded was permitted before it. -/
def Lawful (id : String) : Standing → List Observation → Prop
  | _, [] => True
  | s, o :: rest => (∀ e, o.approval? = some e → s.Permits id e) ∧ (s.see id o).Lawful id rest

@[simp] theorem see_called (w : Wait) : s.see id (.called w) = s := by
  simp [see, Observation.surfaces, Observation.approval?]

@[simp] theorem see_answered (w : Wait) (answer : w.Answer) (elapsed : Nat) :
    s.see id (.answered w answer elapsed) = ⟨s.surfaced || w.surfaces id answer, s.state⟩ := by
  simp [see, Observation.surfaces, Observation.approval?]

@[simp] theorem see_approval (e : ApprovalEvent) :
    s.see id (.noted (.recorded (.approval e))) = ⟨s.surfaced, some e.target⟩ := by
  simp [see, Observation.surfaces, Observation.approval?]

@[simp] theorem see_abandoned : s.see id .abandoned = s := by
  simp [see, Observation.surfaces, Observation.approval?]

theorem after_append (first second : List Observation) :
    s.after id (first ++ second) = (s.after id first).after id second :=
  List.foldl_append

theorem lawful_append {first second : List Observation} :
    s.Lawful id (first ++ second) ↔ s.Lawful id first ∧ (s.after id first).Lawful id second := by
  induction first generalizing s with
  | nil => simp [Lawful, after]
  | cons o first ih =>
    simp only [List.cons_append, Lawful, ih, and_assoc]
    rfl

theorem lawful_abandoned (h : s.Lawful id history) : s.Lawful id (.abandoned :: history) :=
  ⟨by simp [Observation.approval?], by rwa [see_abandoned]⟩

theorem after_abandoned (s : Standing) (history : List Observation) :
    s.after id (.abandoned :: history) = s.after id history := by
  rw [after, List.foldl_cons, see_abandoned, after]

theorem surfaced_after (h : (s.after id history).surfaced = true) :
    s.surfaced = true ∨ ∃ o ∈ history, o.surfaces id = true := by
  induction history generalizing s with
  | nil => exact .inl h
  | cons o history ih =>
    rcases ih h with hs | ⟨o', hmem, ho'⟩
    · rcases (Bool.or_eq_true _ _).mp hs with hs | ho
      · exact .inl hs
      · exact .inr ⟨o, List.mem_cons_self, ho⟩
    · exact .inr ⟨o', List.mem_cons_of_mem _ hmem, ho'⟩

theorem state_after (s : Standing) (history : List Observation) :
    (s.after id history).state =
      ((approvalTrail history).getLast?.map ApprovalEvent.target).or s.state := by
  induction history generalizing s with
  | nil => rfl
  | cons o history ih =>
    simp only [after, List.foldl_cons] at ih ⊢
    rw [ih]
    cases ho : o.approval? with
    | none => simp [approvalTrail_cons_none ho, see, ho]
    | some e =>
      rw [approvalTrail_cons_some ho, List.getLast?_cons]
      cases (approvalTrail history).getLast? <;> simp [see, ho]

theorem trail_eq_nil (h : (start.after id history).state = none) : approvalTrail history = [] := by
  rw [state_after] at h
  simpa [start] using h

theorem exists_last {state : ApprovalState} (h : (start.after id history).state = some state) :
    ∃ e, (approvalTrail history).getLast? = some e ∧ e.target = state := by
  rw [state_after] at h
  simpa [start] using h

/-- What records no step of an approval is lawful. -/
theorem lawful_of_silent (h : ∀ o ∈ history, o.approval? = none) : s.Lawful id history := by
  induction history generalizing s with
  | nil => trivial
  | cons o history ih =>
    obtain ⟨ho, hrest⟩ := List.forall_mem_cons.1 h
    exact ⟨fun e he => by simp [ho] at he, ih hrest⟩

theorem state_of_silent (h : ∀ o ∈ history, o.approval? = none) :
    (s.after id history).state = s.state := by
  have htrail : approvalTrail history = [] := List.filterMap_eq_nil_iff.2 h
  rw [state_after, htrail]
  rfl

/-- The first step leaves the state that the standing tells, and each later one goes on from the one
before it. -/
theorem Lawful.follows (h : s.Lawful id history) :
    (approvalTrail history).IsChain ApprovalEvent.Follows ∧
      ∀ e ∈ (approvalTrail history).head?, e.source = s.state ∧
        (s.state = none → e.target = .proposed) ∧
        ∀ state, s.state = some state → state.canTransition e.target = true := by
  induction history generalizing s with
  | nil => exact ⟨.nil, by simp [approvalTrail]⟩
  | cons o history ih =>
    obtain ⟨ho, hrest⟩ := h
    obtain ⟨hchain, hhead⟩ := ih hrest
    cases hstep : o.approval? with
    | none =>
      rw [approvalTrail_cons_none hstep]
      simp only [see, hstep, Option.map_none, Option.none_or] at hhead
      exact ⟨hchain, hhead⟩
    | some e =>
      -- the standing behind the step is at its target, where the first of the later ones starts
      have hpermits := ho e hstep
      rw [approvalTrail_cons_some hstep]
      refine ⟨List.isChain_cons.2 ⟨fun e' he' => ?_, hchain⟩, ?_⟩
      · obtain ⟨hsource, _, hcan⟩ := hhead e' he'
        have hstate : (s.see id o).state = some e.target := by simp [see, hstep]
        have hcan := hcan _ hstate
        exact {
          source_eq := hsource.trans hstate
          canTransition := hcan
          open_before := ApprovalState.isTerminal_of_canTransition hcan
          approved_before := ApprovalState.eq_approved_of_canTransition hcan }
      · intro e' he'
        obtain rfl : e = e' := by simpa using he'
        exact ⟨hpermits.source_eq, hpermits.first, hpermits.step⟩

theorem Lawful.permits {before rest : List Observation} {e : ApprovalEvent}
    (h : s.Lawful id (before ++ .noted (.recorded (.approval e)) :: rest)) :
    (s.after id before).Permits id e :=
  (lawful_append.1 h).2.1 e rfl

/-- A history that kept to what was permitted has a legal trail. -/
theorem Lawful.legalTrail (h : start.Lawful id history) : LegalTrail id history := by
  obtain ⟨hchain, hhead⟩ := h.follows
  refine ⟨fun e he => ?_, fun e he => ?_, hchain, fun before e rest heq hpending => ?_⟩
  · obtain ⟨o, hmem, ho⟩ := List.mem_filterMap.1 he
    rw [Observation.approval?_eq_some.1 ho] at hmem
    obtain ⟨before, rest, rfl⟩ := List.append_of_mem hmem
    exact h.permits.requestId_eq
  · obtain ⟨hsource, hfirst, _⟩ := hhead e he
    exact ⟨hsource, hfirst rfl⟩
  · subst heq
    rcases surfaced_after (h.permits.surfaced hpending) with hstart | ⟨o, hmem, ho⟩
    · cases hstart
    · obtain ⟨r, elapsed, hr, rfl⟩ := Observation.exists_of_surfaces ho
      exact ⟨r, elapsed, hr, hmem⟩

end Standing

/-- The program, begun with the standing, records only steps that are permitted. Where it is given up
the approval may be left as it is then, and its result may come with the state that it ends in. -/
def Program.Audited (id : String) (mayLeave : Wait → Option ApprovalState → Prop)
    (mayEnd : Option ApprovalState → α → Prop) : Standing → Program α → Prop
  | s, .done result => mayEnd s.state result
  | s, .note n next =>
    (∀ e, (Observation.noted n).approval? = some e → s.Permits id e) ∧
      next.Audited id mayLeave mayEnd (s.see id (.noted n))
  | s, .wait w notes next =>
    (s.Lawful id (notes.map .noted) ∧ mayLeave w (s.after id (notes.map .noted)).state) ∧
      ∀ answer, (next answer).Audited id mayLeave mayEnd ⟨s.surfaced || w.surfaces id answer, s.state⟩

namespace Program.Audited

variable {mayLeave mayLeave' : Wait → Option ApprovalState → Prop}
  {mayEnd : Option ApprovalState → α → Prop} {mayEnd' : Option ApprovalState → β → Prop}
  {s : Standing} {p : Program α}

/-- A note that is no step of an approval changes nothing. -/
theorem silent {n : Note} (hn : (Observation.noted n).approval? = none)
    (h : p.Audited id mayLeave mayEnd s) : (Program.note n p).Audited id mayLeave mayEnd s := by
  refine ⟨fun e he => by simp [hn] at he, ?_⟩
  have hs : s.see id (.noted n) = s := by
    simp [Standing.see, hn, Observation.surfaces]
  rwa [hs]

theorem record {e : ApprovalEvent} (hpermits : s.Permits id e)
    (h : p.Audited id mayLeave mayEnd ⟨s.surfaced, some e.target⟩) :
    (Program.record (.approval e) p).Audited id mayLeave mayEnd s := by
  refine ⟨fun e' he => ?_, by rwa [Standing.see_approval]⟩
  cases he
  exact hpermits

theorem bind {f : α → Program β} (hp : p.Audited id mayLeave mayEnd s)
    (hleave : ∀ w state, mayLeave w state → mayLeave' w state)
    (hf : ∀ s result, mayEnd s.state result → (f result).Audited id mayLeave' mayEnd' s) :
    (p >>= f).Audited id mayLeave' mayEnd' s := by
  induction p generalizing s with
  | done result => exact hf s result hp
  | note n next ih => exact ⟨hp.1, ih hp.2⟩
  | wait w notes next ih =>
    exact ⟨⟨hp.1.1, hleave w _ hp.1.2⟩, fun answer => ih answer (hp.2 answer)⟩

/-- More may be noted when the program is given up, but no step of the approval. -/
theorem onAbandon {notes : List Note} (hp : p.Audited id mayLeave mayEnd s)
    (hnotes : ∀ n ∈ notes, (Observation.noted n).approval? = none) :
    (p.onAbandon notes).Audited id mayLeave mayEnd s := by
  induction p generalizing s with
  | done result => exact hp
  | note n next ih => exact ⟨hp.1, ih hp.2⟩
  | wait w first next ih =>
    obtain ⟨⟨hlawful, hleave⟩, hnext⟩ := hp
    have hsilent : ∀ o ∈ notes.map Observation.noted, o.approval? = none := by simpa using hnotes
    refine ⟨?_, fun answer => ih answer (hnext answer)⟩
    rw [List.map_append, Standing.after_append, Standing.state_of_silent hsilent]
    exact ⟨Standing.lawful_append.2 ⟨hlawful, Standing.lawful_of_silent hsilent⟩, hleave⟩

end Program.Audited

namespace ApprovalSession

variable {session : ApprovalSession} {next : ApprovalState} {detail : Option String} {s : Standing}

/-- The session is that of the approval, and has come as far. -/
structure Stands (id : String) (session : ApprovalSession) (s : Standing) : Prop where
  requestId_eq : session.requestId = id
  state_eq : s.state = some session.state

theorem Stands.permits (h : session.Stands id s) (hnext : session.state.canTransition next = true)
    (hpending : next = .pending → s.surfaced = true) :
    s.Permits id ⟨session.requestId, some session.state, next, none, detail⟩ where
  requestId_eq := h.requestId_eq
  source_eq := h.state_eq.symm
  first hnone := by simp [h.state_eq] at hnone
  step state hstate := by
    obtain rfl : session.state = state := by simpa [h.state_eq] using hstate
    exact hnext
  surfaced := hpending

/-- A session that nobody has decided is recorded as abandoned when it is given up. -/
theorem Stands.abandonment (h : session.Stands id s)
    (hopen : session.state.canTransition .abandoned = true) :
    s.Lawful id (session.abandonment.map .noted) ∧
      (s.after id (session.abandonment.map .noted)).state = some .abandoned := by
  have heq : session.abandonment =
      [.recorded (.approval ⟨session.requestId, some session.state, .abandoned, none, none⟩)] := by
    simp [ApprovalSession.abandonment, advance, hopen]
  rw [heq]
  refine ⟨⟨fun e he => ?_, trivial⟩, by simp [Standing.after]⟩
  cases he
  exact h.permits hopen (by simp)

theorem Stands.enter {mayLeave : Wait → Option ApprovalState → Prop}
    {mayEnd : Option ApprovalState → Except ApprovalError ApprovalSession → Prop}
    (h : session.Stands id s) (hnext : session.state.canTransition next = true)
    (hpending : next = .pending → s.surfaced = true)
    (hend : mayEnd (some next) (.ok ⟨session.requestId, next, detail⟩)) :
    (session.enter next detail).Audited id mayLeave mayEnd s := by
  rw [enter_of_canTransition hnext]
  exact .record (h.permits hnext hpending) hend

end ApprovalSession

theorem Verdict.state_cases (v : Verdict) :
    v.state = .approved ∨ v.state = .rejected ∨ v.state = .timedOut := by
  cases v with
  | decided decision => cases decision <;> simp [state]
  | failed error => simp [state]
  | expired => simp [state]

/-- A review brings a session that has been decided, and it is the one that was recorded. -/
def EndsReview (id : String) (state : Option ApprovalState) :
    Except ApprovalError ApprovalSession → Prop
  | .ok session => session.requestId = id ∧ state = some session.state ∧
      (session.state = .approved ∨ session.state = .rejected ∨ session.state = .timedOut)
  | .error _ => False

/-- Whatever the operator does and whenever the review is given up, it takes only permitted steps;
given up, it leaves its approval abandoned. -/
theorem ApprovalRequest.audited_review (r : ApprovalRequest) :
    r.review.Audited r.requestId (fun _ state => state = some .abandoned) (EndsReview r.requestId)
      .start := by
  have hproposal : Standing.start.Permits r.requestId r.proposal :=
    ⟨rfl, rfl, fun _ => rfl, by simp [Standing.start], by simp [proposal]⟩
  refine .record hproposal ⟨?_, fun surfaced => ?_⟩
  · exact ApprovalSession.Stands.abandonment ⟨rfl, rfl⟩ rfl
  · cases surfaced with
    | error error =>
      exact ApprovalSession.Stands.enter ⟨rfl, rfl⟩ rfl (by simp) ⟨rfl, rfl, .inr (.inl rfl)⟩
    | ok =>
      have hpending : (ApprovalSession.enter (.proposed r.requestId) .pending none).Audited
          r.requestId (fun _ state => state = some .abandoned)
          (fun state result => state = some .pending ∧ result = .ok ⟨r.requestId, .pending, none⟩)
          ⟨true, some .proposed⟩ :=
        ApprovalSession.Stands.enter ⟨rfl, rfl⟩ rfl (fun _ => rfl) ⟨rfl, rfl⟩
      rw [Wait.surfaces, beq_self_eq_true]
      refine hpending.bind (fun _ _ h => h) fun s result h => ?_
      obtain ⟨hstate, rfl⟩ := h
      refine ⟨ApprovalSession.Stands.abandonment ⟨rfl, hstate⟩ rfl, fun verdict => ?_⟩
      have hdecided := verdict.state_cases
      refine ApprovalSession.Stands.enter ⟨rfl, hstate⟩ verdict.canTransition_state (fun h => ?_)
        ⟨rfl, rfl, hdecided⟩
      simp [h] at hdecided

end StatementGate
