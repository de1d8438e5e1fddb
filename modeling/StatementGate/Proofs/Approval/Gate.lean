import StatementGate.Proofs.Approval.Trail
import StatementGate.Proofs.Interleaving

/-! # The approval gate

Any number of reviews at once. Whoever drives them chooses the order of the steps, the operators'
answers, and what is done with the sessions that the reviews bring: the holder of a session reports
how the execution ended, or lets go of it. A review may be given up wherever it waits. -/

namespace StatementGate

variable {window : Nat}

/-- Where an approval stands: its review came to a point of its program at some time, its session is
held, or it is gone. -/
inductive SessionPhase where
  | reviewing (since : Nat) (program : Program (Except ApprovalError ApprovalSession))
  | held (session : ApprovalSession)
  | gone

/-- What may happen to an approval. -/
inductive SessionMove where
  | proceed
  | answer (wait : Wait) (answer : wait.Answer)
  | executed
  | executionFailed (error : String)
  | drop

/-- What is noted when the holder of a session reports the end of the execution. The session is gone
then, also when the report is refused. -/
def ApprovalSession.report (s : ApprovalSession) (next : ApprovalState) (detail : Option String) :
    List Note :=
  match s.advance next detail with
  | .ok (event, s) => .recorded (.approval event) :: s.abandonment
  | .error _ => s.abandonment

namespace SessionPhase

/-- What a move lets be seen, and where the approval stands then. -/
def step (window now : Nat) : SessionPhase → SessionMove → Option (List Observation × SessionPhase)
  | .reviewing _ (.done (.ok session)), .proceed => some ([], .held session)
  | .reviewing _ (.done (.error _)), .proceed => some ([], .gone)
  | .reviewing _ (.note n next), .proceed => some ([.noted n], .reviewing now next)
  | .reviewing since (.wait w _ next), .answer w' a =>
    if h : w' = w then
      let a : w.Answer := h ▸ a
      if w.admits window (now - since) a then
        some ([.answered w a (now - since)], .reviewing now (next a))
      else none
    else none
  | .reviewing _ (.wait _ notes _), .drop => some (.abandoned :: notes.map .noted, .gone)
  | .held session, .executed => some ((session.report .executed none).map .noted, .gone)
  | .held session, .executionFailed error =>
    some ((session.report .executionFailed (some error)).map .noted, .gone)
  | .held session, .drop => some (.abandoned :: session.abandonment.map .noted, .gone)
  | _, _ => none

end SessionPhase

structure Review where
  request : ApprovalRequest
  phase : SessionPhase

/-- The reviews of a gate in the order they were asked for, and what was seen of each of them. -/
structure Reviews where
  now : Nat
  reviews : List Review
  log : List (Nat × Observation)

inductive ReviewAction where
  | tick
  | review (request : ApprovalRequest)
  | move (review : Nat) (move : SessionMove)

namespace Reviews

def start : Reviews := ⟨0, [], []⟩

def act (window : Nat) (t : Reviews) : ReviewAction → Reviews
  | .tick => { t with now := t.now + 1 }
  | .review request => { t with reviews := t.reviews ++ [⟨request, .reviewing t.now request.review⟩] }
  | .move i move =>
    match t.reviews[i]? with
    | none => t
    | some r =>
      match r.phase.step window t.now move with
      | none => t
      | some (seen, phase) =>
        { t with
          reviews := t.reviews.set i { r with phase }
          log := t.log ++ seen.map fun o => (i, o) }

/-- The state that a list of actions leads to. -/
def after (window : Nat) (actions : List ReviewAction) : Reviews :=
  actions.foldl (act window) start

/-- What was seen of one review. -/
def history (t : Reviews) (review : Nat) : List Observation := entriesOf t.log review

end Reviews

variable {id : String} {history : List Observation}

/-- An approval that nobody holds any more is over, or it was granted and let go of before the
execution had ended. -/
def LeftClosed (history : List Observation) : Prop :=
  ∃ e, (approvalTrail history).getLast? = some e ∧
    (e.target.isTerminal = true ∨ e.target = .approved ∧ ∃ before, history = before ++ [.abandoned])

/-- What the phase of an approval has to do with what was recorded of it. -/
def SessionPhase.Fits (id : String) (history : List Observation) : SessionPhase → Prop
  | .reviewing _ p =>
    p.Audited id (fun _ state => state = some .abandoned) (EndsReview id)
      (Standing.start.after id history)
  | .held session => EndsReview id (Standing.start.after id history).state (.ok session)
  | .gone => LeftClosed history

theorem LeftClosed.of_isOver (id : String) (h : IsOver (Standing.start.after id history).state) :
    LeftClosed history := by
  obtain ⟨state, hstate, hterminal⟩ := h
  obtain ⟨e, he, rfl⟩ := Standing.exists_last hstate
  exact ⟨e, he, .inl hterminal⟩

theorem ApprovalSession.abandonment_of_decided {session : ApprovalSession}
    (h : session.state = .approved ∨ session.state = .rejected ∨ session.state = .timedOut) :
    session.abandonment = [] := by
  rcases h with h | h | h <;> simp [abandonment, advance, h, ApprovalState.canTransition]

/-- The report on a session that is not approved is refused, and otherwise it is the last step. -/
theorem ApprovalSession.report_fits {session : ApprovalSession} {next : ApprovalState}
    {detail : Option String} (hnext : next = .executed ∨ next = .executionFailed)
    (h : EndsReview id (Standing.start.after id history).state (.ok session)) :
    (Standing.start.after id history).Lawful id ((session.report next detail).map .noted) ∧
      LeftClosed (history ++ (session.report next detail).map .noted) := by
  obtain ⟨hid, hstate, happroved | hdenied⟩ := h
  · have hcan : session.state.canTransition next = true := by
      rcases hnext with rfl | rfl <;> rw [happroved] <;> rfl
    have hreport : session.report next detail =
        [.recorded (.approval ⟨session.requestId, some session.state, next, none, detail⟩)] := by
      rcases hnext with rfl | rfl <;>
        simp [report, advance, happroved, ApprovalState.canTransition, abandonment]
    have hstands : session.Stands id (Standing.start.after id history) := ⟨hid, hstate⟩
    rw [hreport]
    refine ⟨⟨fun e he => ?_, trivial⟩, ?_⟩
    · cases he
      exact hstands.permits hcan (by rcases hnext with rfl | rfl <;> simp)
    · refine .of_isOver id ⟨next, ?_, by rcases hnext with rfl | rfl <;> rfl⟩
      rw [Standing.after_append]
      simp [Standing.after]
  · have hreport : session.report next detail = [] := by
      rcases hnext with rfl | rfl <;> rcases hdenied with hs | hs <;>
        simp [report, advance, hs, ApprovalState.canTransition, abandonment]
    rw [hreport]
    refine ⟨trivial, .of_isOver id ⟨session.state, ?_, ?_⟩⟩
    · rwa [List.map_nil, List.append_nil]
    · rcases hdenied with hs | hs <;> rw [hs] <;> rfl

/-- A move of an approval records only permitted steps. -/
theorem SessionPhase.step_fits {now : Nat} {phase phase' : SessionPhase} {move : SessionMove}
    {seen : List Observation} (h : phase.step window now move = some (seen, phase'))
    (hfits : phase.Fits id history) :
    (Standing.start.after id history).Lawful id seen ∧ phase'.Fits id (history ++ seen) := by
  unfold step at h
  split at h
  · cases h
    rw [List.append_nil]
    exact ⟨trivial, hfits⟩
  · exact hfits.elim
  · cases h
    refine ⟨⟨hfits.1, trivial⟩, ?_⟩
    rw [Fits, Standing.after_append]
    exact hfits.2
  · split at h
    · rename_i heq
      subst heq
      simp only at h
      split at h
      · cases h
        refine ⟨Standing.lawful_of_silent (by simp [Observation.approval?]), ?_⟩
        rw [Fits, Standing.after_append]
        simpa [Standing.after] using hfits.2 _
      · cases h
    · cases h
  · cases h
    obtain ⟨⟨hlawful, hstate⟩, _⟩ := hfits
    refine ⟨Standing.lawful_abandoned hlawful, .of_isOver id ⟨.abandoned, ?_, rfl⟩⟩
    rw [Standing.after_append, Standing.after_abandoned]
    exact hstate
  · cases h
    exact ApprovalSession.report_fits (.inl rfl) hfits
  · cases h
    exact ApprovalSession.report_fits (.inr rfl) hfits
  · cases h
    rename_i session
    rw [ApprovalSession.abandonment_of_decided hfits.2.2]
    refine ⟨Standing.lawful_abandoned trivial, ?_⟩
    obtain ⟨_, hstate, hdecided⟩ := hfits
    obtain ⟨e, he, htarget⟩ := Standing.exists_last hstate
    refine ⟨e, by simpa [approvalTrail, Observation.approval?] using he, ?_⟩
    rw [htarget]
    rcases hdecided with hs | hs | hs
    · exact .inr ⟨hs, history, rfl⟩
    · exact .inl (by rw [hs]; rfl)
    · exact .inl (by rw [hs]; rfl)
  · cases h

namespace Reviews

/-- The approval of a review is on a legal way. -/
def OnItsWay (r : Review) (history : List Observation) : Prop :=
  Standing.start.Lawful r.request.requestId history ∧ r.phase.Fits r.request.requestId history

theorem act_move (window : Nat) (t : Reviews) (i : Nat) (move : SessionMove) :
    t.act window (.move i move) = t ∨
      ∃ r seen phase, t.reviews[i]? = some r ∧
        r.phase.step window t.now move = some (seen, phase) ∧
        t.act window (.move i move) =
          { t with
            reviews := t.reviews.set i { r with phase }
            log := t.log ++ seen.map fun o => (i, o) } := by
  simp only [Reviews.act]
  split
  · exact .inl rfl
  · rename_i r hr
    split
    · exact .inl rfl
    · exact .inr ⟨r, _, _, hr, by assumption, rfl⟩

theorem onItsWay_act {t : Reviews} (h : AllKeep OnItsWay t.reviews t.log) (a : ReviewAction) :
    AllKeep OnItsWay (t.act window a).reviews (t.act window a).log := by
  cases a with
  | tick => exact h
  | review request => exact h.arrive ⟨trivial, request.audited_review⟩
  | move i move =>
    rcases act_move window t i move with hact | ⟨r, seen, phase, hr, hstep, hact⟩
    · rwa [hact]
    · rw [hact]
      obtain ⟨hlawful, hfits⟩ := h.holds i r hr
      obtain ⟨hseen, hfits⟩ := SessionPhase.step_fits hstep hfits
      exact h.write hr ⟨Standing.lawful_append.2 ⟨hlawful, hseen⟩, hfits⟩

theorem onItsWay_after (actions : List ReviewAction) :
    AllKeep OnItsWay (after window actions).reviews (after window actions).log := by
  let keeps (t : Reviews) : Prop := AllKeep OnItsWay t.reviews t.log
  have hstart : keeps start := .nil
  exact List.foldlRecOn actions (act window) hstart fun _ h a _ => onItsWay_act h a

/-- What is recorded of the approval of one review: a legal trail, and one that is closed once the
approval is gone. Under an identity that no other review has, nothing else is recorded. -/
structure TrailOf (t : Reviews) (i : Nat) (r : Review) : Prop where
  legal : LegalTrail r.request.requestId (t.history i)
  closed : r.phase = .gone → LeftClosed (t.history i)
  own : (∀ j r', t.reviews[j]? = some r' → r'.request.requestId = r.request.requestId → j = i) →
    (approvalsOf t.log).filter (fun e => e.requestId = r.request.requestId) =
      approvalTrail (t.history i)

/-- However many reviews there are and whatever happens to them, each has its legal trail. -/
theorem trailOf_after {actions : List ReviewAction} {i : Nat} {r : Review}
    (hr : (after window actions).reviews[i]? = some r) : (after window actions).TrailOf i r := by
  have hall : AllKeep OnItsWay (after window actions).reviews (after window actions).log :=
    onItsWay_after actions
  obtain ⟨hlawful, hfits⟩ := hall.holds i r hr
  refine ⟨hlawful.legalTrail, fun hgone => by rwa [hgone] at hfits, fun hown => ?_⟩
  have hsigned : AllKeep (fun (r : Review) history =>
      ∀ e ∈ history.filterMap Observation.approval?, e.requestId = r.request.requestId) _ _ :=
    hall.imp fun r history h => h.1.legalTrail.requestId_eq
  exact hsigned.filter_eq hr hown

end Reviews

end StatementGate
