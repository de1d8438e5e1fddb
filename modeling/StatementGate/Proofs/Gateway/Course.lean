import StatementGate.Gateway.Handle

/-! # The course of a request

The programs of reads, reviews and executions with the state checks carried out: none of them
fails, so what is left is the order of notes and waits and what each answer leads to. -/

namespace StatementGate

variable {α : Type}

namespace RequestTrace

theorem enter_of_canTransition {t : RequestTrace} {next : RequestState}
    (h : t.state.canTransition next = true) (go : RequestTrace → Program ExecutionResult) :
    t.enter next go = .note (.entered next) (go { t with state := next }) :=
  if_pos h

theorem reject_eq {t : RequestTrace} (h : t.state.canTransition .rejected = true)
    (error : Option String) :
    t.reject error = .note (.entered .rejected)
      ({ t with state := .rejected }.finish .rejected (.notExecuted (some false) error t.id) none) :=
  enter_of_canTransition h _

end RequestTrace

namespace ApprovalSession

theorem enter_of_canTransition {s : ApprovalSession} {next : ApprovalState}
    (h : s.state.canTransition next = true) (detail : Option String) :
    s.enter next detail =
      .record (.approval ⟨s.requestId, some s.state, next, none, detail⟩)
        (.done (.ok ⟨s.requestId, next, detail⟩)) := by
  simp [enter, advance, h]

end ApprovalSession

theorem Verdict.canTransition_state (v : Verdict) :
    ApprovalState.canTransition .pending v.state = true := by
  cases v with
  | decided decision => cases decision <;> rfl
  | failed error => rfl
  | expired => rfl

theorem Verdict.state_eq_approved_iff (v : Verdict) :
    v.state = .approved ↔ v = .decided .approved := by
  cases v with
  | decided decision => cases decision <;> simp [Verdict.state]
  | failed error => simp [Verdict.state]
  | expired => simp [Verdict.state]

namespace ApprovalRequest

/-- A review followed by `go`. Whatever ends the review, it ends with a session. -/
def reviewed (r : ApprovalRequest) (notes : List Note) (go : ApprovalSession → Program α) :
    Program α :=
  .note (.recorded (.approval r.proposal)) <|
  .wait (.surface r)
      (.recorded (.approval ⟨r.requestId, some .proposed, .abandoned, none, none⟩) :: notes) fun
    | .error error =>
      .note (.recorded (.approval
          ⟨r.requestId, some .proposed, .rejected, none, some error.message⟩))
        (go ⟨r.requestId, .rejected, some error.message⟩)
    | .ok () =>
      .note (.recorded (.approval ⟨r.requestId, some .proposed, .pending, none, none⟩)) <|
      .wait (.decision r.requestId)
          (.recorded (.approval ⟨r.requestId, some .pending, .abandoned, none, none⟩) :: notes)
        fun verdict =>
          .note (.recorded (.approval
              ⟨r.requestId, some .pending, verdict.state, none, verdict.detail⟩))
            (go ⟨r.requestId, verdict.state, verdict.detail⟩)

theorem review_bind (r : ApprovalRequest) (notes : List Note)
    (go : Except ApprovalError ApprovalSession → Program α) :
    r.review.onAbandon notes >>= go = r.reviewed notes fun session => go (.ok session) := by
  change (r.review.onAbandon notes).bind go = _
  simp only [reviewed, review]
  simp only [Program.record, Program.onAbandon, Program.bind]
  congr 2
  funext answer
  cases answer with
  | error e => rfl
  | ok =>
    change Program.note _ (Program.wait _ _ _) = _
    congr 2
    funext verdict
    change ((ApprovalSession.enter ⟨r.requestId, .pending, none⟩ _ _).onAbandon notes).bind go = _
    rw [ApprovalSession.enter_of_canTransition verdict.canTransition_state]
    rfl

end ApprovalRequest

namespace Gateway

/-- What follows a database's answer to a read. -/
def afterQuery (g : Gateway) (t : RequestTrace) :
    Except CallFailure QueryOutput → Program ExecutionResult
  | .error failure => t.fail (.call failure)
  | .ok output =>
    let t := { t with rowsReturned := some output.rows.length }
    match g.sanitizers.sanitize output with
    | .error error => t.fail (.sanitize error)
    | .ok rows =>
      match rows.mapM Row.encode with
      | .error error => t.fail (.codec error)
      | .ok rows =>
        .note (.entered .succeeded)
          ({ t with state := .succeeded }.finish .succeeded (.read rows t.id) none)

theorem read_eq (g : Gateway) {t : RequestTrace} (h : t.state = .received) :
    g.read t =
      let t := { t with state := .readExecuting }
      .note (.entered .readExecuting) (.wait (.query t.call) t.abandonment (g.afterQuery t)) := by
  simp only [read]
  rw [RequestTrace.enter_of_canTransition (by rw [h]; rfl)]
  congr 2
  funext answer
  cases answer with
  | error failure => rfl
  | ok output =>
    simp only [afterQuery]
    cases g.sanitizers.sanitize output with
    | error error => rfl
    | ok rows =>
      cases rows.mapM Row.encode with
      | error error => rfl
      | ok rows => rfl

/-- What follows a database's answer to an approved write: the session ends with it. -/
def afterExecute (t : RequestTrace) (s : ApprovalSession) :
    Except CallFailure Nat → Program ExecutionResult
  | .ok rowsAffected =>
    let t := { t with rowsAffected := some rowsAffected }
    .record (.approval ⟨s.requestId, some .approved, .executed, none, none⟩) <|
    .note (.entered .succeeded)
      ({ t with state := .succeeded }.finish .succeeded (.written rowsAffected t.id) none)
  | .error failure =>
    .record (.approval ⟨s.requestId, some .approved, .executionFailed, none, some failure.message⟩)
      (t.fail (.call failure))

theorem execute_eq {t : RequestTrace} {s : ApprovalSession} (ht : t.state = .awaitingApproval)
    (hs : s.state = .approved) :
    execute t s = .wait (.execute t.call) t.abandonment (afterExecute t s) := by
  simp only [execute]
  congr 1
  funext answer
  cases answer with
  | ok rowsAffected =>
    simp only [afterExecute]
    rw [ApprovalSession.enter_of_canTransition (by rw [hs]; rfl), hs]
    simp only [bind, Program.bind, Program.record]
    rw [RequestTrace.enter_of_canTransition (by simp only [ht]; rfl)]
  | error failure =>
    simp only [afterExecute]
    rw [ApprovalSession.enter_of_canTransition (by rw [hs]; rfl), hs]
    rfl

/-- The handling of a write that may be approved. -/
theorem write_eq {t : RequestTrace} {context : ApprovalContext} (h : t.state = .received)
    (hc : t.request.approvalContext = some context) :
    write t false =
      let t := { t with state := .awaitingApproval }
      .note (.entered .awaitingApproval) <|
      (t.approvalRequest context).reviewed t.abandonment fun session =>
        if session.isApproved then execute { t with granted := true } session
        else t.reject session.denial := by
  simp only [write]
  rw [hc]
  simp only [Bool.false_eq_true, if_false]
  rw [RequestTrace.enter_of_canTransition (by rw [h]; rfl)]
  congr 1
  exact ApprovalRequest.review_bind _ _ _

theorem write_of_no_context {t : RequestTrace} {readOnly : Bool}
    (h : t.request.approvalContext = none) :
    write t readOnly = t.reject (some "write requires approvalContext") := by
  simp only [write]
  rw [h]

theorem write_of_readOnly {t : RequestTrace} {context : ApprovalContext}
    (h : t.request.approvalContext = some context) :
    write t true = t.fail (.readOnlyDatabase t.request.databaseId) := by
  simp only [write]
  rw [h]
  rfl

section Handle

variable (g : Gateway) (id : String) {request : ExecuteRequest} {found : StatementClass}
  {readOnly : Bool}

theorem handle_of_error {error : ClassifyError} (h : classify request.sql = .error error) :
    g.handle id request = (RequestTrace.received id request).fail (.classify error) := by
  simp only [handle]
  rw [h]

theorem handle_of_unknown (h : classify request.sql = .ok found)
    (hdatabase : g.databases.get? request.databaseId = none) :
    g.handle id request =
      { RequestTrace.received id request with
        statement := some (if request.writeIntent then .write else found) }.fail
          (.unknownDatabase request.databaseId) := by
  simp only [handle]
  rw [h]
  simp only [hdatabase]

theorem handle_of_write (h : classify request.sql = .ok found)
    (hwrite : found = .write ∨ request.writeIntent = true)
    (hdatabase : g.databases.get? request.databaseId = some readOnly) :
    g.handle id request =
      write { RequestTrace.received id request with statement := some .write } readOnly := by
  have hs : (if request.writeIntent = true then StatementClass.write else found) = .write := by
    rcases hwrite with rfl | hi
    · exact ite_self _
    · exact if_pos hi
  simp only [handle]
  rw [h]
  simp only [hdatabase, hs, if_true]

theorem handle_of_read (h : classify request.sql = .ok .read)
    (hread : request.writeIntent = false)
    (hdatabase : g.databases.get? request.databaseId = some readOnly) :
    g.handle id request =
      g.read { RequestTrace.received id request with statement := some .read } := by
  simp only [handle]
  rw [h]
  simp [hdatabase, hread]

/-- The ways of a request: it is not classified, its database is not known, or it is a write or a
read on a database that is. -/
theorem handle_routes (request : ExecuteRequest) :
    (∃ error, classify request.sql = .error error ∧
      g.handle id request = (RequestTrace.received id request).fail (.classify error)) ∨
    (∃ found, classify request.sql = .ok found ∧
      g.handle id request = { RequestTrace.received id request with
        statement := some (if request.writeIntent then .write else found) }.fail
          (.unknownDatabase request.databaseId)) ∨
    (∃ found readOnly, classify request.sql = .ok found ∧
      (found = .write ∨ request.writeIntent = true) ∧
      g.databases.get? request.databaseId = some readOnly ∧
      g.handle id request =
        write { RequestTrace.received id request with statement := some .write } readOnly) ∨
    (classify request.sql = .ok .read ∧ request.writeIntent = false ∧
      g.handle id request =
        g.read { RequestTrace.received id request with statement := some .read }) := by
  cases hfound : classify request.sql with
  | error error => exact .inl ⟨error, rfl, g.handle_of_error id hfound⟩
  | ok found =>
    cases hdatabase : g.databases.get? request.databaseId with
    | none => exact .inr (.inl ⟨found, rfl, g.handle_of_unknown id hfound hdatabase⟩)
    | some readOnly =>
      by_cases hwrite : found = .write ∨ request.writeIntent = true
      · exact .inr (.inr (.inl ⟨found, readOnly, rfl, hwrite, rfl,
          g.handle_of_write id hfound hwrite hdatabase⟩))
      · obtain ⟨hclass, hintent⟩ := not_or.1 hwrite
        have hintent : request.writeIntent = false := by simpa using hintent
        cases found with
        | write => exact absurd rfl hclass
        | read => exact .inr (.inr (.inr ⟨rfl, hintent, g.handle_of_read id hfound hintent hdatabase⟩))

/-- A request fails or is refused at once, is read, or is a write that may be approved. -/
theorem handle_cases (request : ExecuteRequest) :
    (∃ t error, g.handle id request = RequestTrace.fail t error) ∨
    (∃ t error, t.state = .received ∧ g.handle id request = RequestTrace.reject t error) ∨
    (classify request.sql = .ok .read ∧ request.writeIntent = false ∧
      g.handle id request =
        g.read { RequestTrace.received id request with statement := some .read }) ∨
    ∃ found context, classify request.sql = .ok found ∧
      (found = .write ∨ request.writeIntent = true) ∧
      g.databases.get? request.databaseId = some false ∧
      request.approvalContext = some context ∧
      g.handle id request =
        write { RequestTrace.received id request with statement := some .write } false := by
  rcases g.handle_routes id request with ⟨_, _, h⟩ | ⟨_, _, h⟩ |
    ⟨found, readOnly, hfound, hwrite, hdatabase, h⟩ | hread
  · exact .inl ⟨_, _, h⟩
  · exact .inl ⟨_, _, h⟩
  · cases hcontext : request.approvalContext with
    | none => exact .inr (.inl ⟨_, _, rfl, h.trans (write_of_no_context (by exact hcontext))⟩)
    | some context =>
      cases readOnly with
      | true => exact .inl ⟨_, _, h.trans (write_of_readOnly (by exact hcontext))⟩
      | false => exact .inr (.inr (.inr ⟨found, context, hfound, hwrite, hdatabase, rfl, h⟩))
  · exact .inr (.inr (.inl hread))

end Handle

end Gateway

end StatementGate
