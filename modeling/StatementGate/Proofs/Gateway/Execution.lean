import StatementGate.Proofs.Gateway.Gating

/-! # What is recorded of an execution

The audit of a request whose statement its database was sent. Once the database has answered, the
event of the request and the last step of its approval say what it answered. A request that is given
up before that leaves the event of a rejection and an approval without an end, whatever the database
does with the statement. -/

namespace StatementGate

variable {g : Gateway} {window : Nat} {id : String} {request : ExecuteRequest}
  {call : DatabaseCall} {result : ExecutionResult} {history : List Observation}

namespace Observation

/-- The state that a recorded step of an approval leads to. -/
def approvalStep? : Observation → Option ApprovalState
  | .noted (.recorded (.approval e)) => some e.target
  | _ => none

/-- The recorded end of a request. -/
def ending? : Observation → Option ExecuteEvent
  | .noted (.recorded (.execute e)) => some e
  | _ => none

end Observation

/-- A history with one event for the request, of the given outcome, and an approval that came to the
given state. -/
structure RecordedAs (history : List Observation) (outcome : RequestState)
    (approval : ApprovalState) : Prop where
  ending : ∃ e, history.filterMap Observation.ending? = [e] ∧ e.outcome = outcome
  approval : (history.filterMap Observation.approvalStep?).getLast? = some approval

/-- A history up to the execution of an approved statement. -/
structure ReadyToExecute (history : List Observation) : Prop where
  endings : history.filterMap Observation.ending? = []
  steps : history.filterMap Observation.approvalStep? = [.proposed, .pending, .approved]
  going : ∀ o ∈ history, o ≠ .abandoned ∧ ∀ result, o ≠ .returned result

section Ahead

variable {p : Program ExecutionResult} {w : Wait} {n : Note} {notes : List Note}
  {next : w.Answer → Program ExecutionResult} {o : Observation}

/-- What is seen of a program that notes something first, the note apart, is seen behind it. -/
theorem Program.Allows.behind_note (h : (Program.note n p).Allows window history) (ho : o ∈ history)
    (hne : o ≠ .noted n) :
    ∃ rest, history = .noted n :: rest ∧ p.Allows window rest ∧ o ∈ rest := by
  cases h with
  | start => cases ho
  | noted _ h => exact ⟨_, rfl, h, (List.mem_cons.1 ho).resolve_left hne⟩

/-- A statement is sent behind the answer to another wait. -/
theorem Program.Allows.behind_wait (h : (Program.wait w notes next).Allows window history)
    (hcall : .called (.execute call) ∈ history) (hne : w ≠ .execute call) :
    ∃ answer elapsed rest, history = .called w :: .answered w answer elapsed :: rest ∧
      (next answer).Allows window rest ∧ .called (.execute call) ∈ rest := by
  cases h with
  | start => cases hcall
  | called => simp [hne.symm] at hcall
  | abandoned => simp [hne.symm] at hcall
  | answered answer elapsed _ h =>
    exact ⟨answer, elapsed, _, rfl, h, by simpa [hne.symm] using hcall⟩

end Ahead

/-- A program that sends no statement to be executed. -/
def Program.NeverExecutes (window : Nat) (p : Program ExecutionResult) : Prop :=
  ∀ history, p.Allows window history → ∀ call, .called (.execute call) ∉ history

/-- Of a program that waits for nothing only its notes and its result are seen. -/
theorem Program.EndsWith.mem_history {good : ExecutionResult → Prop} {p : Program ExecutionResult}
    (hp : p.EndsWith good) (h : p.Allows window history) {o : Observation} (ho : o ∈ history) :
    (∃ n, o = .noted n) ∨ ∃ result, o = .returned result := by
  induction p generalizing history with
  | done result =>
    cases h with
    | start => cases ho
    | returned => exact .inr ⟨result, List.mem_singleton.1 ho⟩
  | note n next ih =>
    cases h with
    | start => cases ho
    | noted _ h =>
      rcases List.mem_cons.1 ho with rfl | ho
      · exact .inl ⟨n, rfl⟩
      · exact ih hp h ho
  | wait => exact hp.elim

theorem Program.EndsWith.neverExecutes {good : ExecutionResult → Prop} {p : Program ExecutionResult}
    (hp : p.EndsWith good) : p.NeverExecutes window := by
  intro history h call hcall
  rcases hp.mem_history h hcall with ⟨_, ho⟩ | ⟨_, ho⟩
  · cases ho
  · cases ho

/-- A review that leads to an execution was surfaced and approved. -/
theorem ApprovalRequest.exists_ready {r : ApprovalRequest} {notes : List Note}
    {go : ApprovalSession → Program ExecutionResult}
    (hdenied : ∀ session, session.state ≠ .approved → (go session).NeverExecutes window)
    (h : (r.reviewed notes go).Allows window history) (hcall : .called (.execute call) ∈ history) :
    ∃ before rest, history = before ++ rest ∧ ReadyToExecute before ∧
      (go ⟨r.requestId, .approved, none⟩).Allows window rest ∧ .called (.execute call) ∈ rest := by
  obtain ⟨_, rfl, h, hcall⟩ := h.behind_note hcall nofun
  rcases h.behind_wait hcall nofun with ⟨error | _, _, _, rfl, h, hcall⟩
  · obtain ⟨_, rfl, h, hcall⟩ := Program.Allows.behind_note h hcall nofun
    exact absurd hcall (hdenied _ (by simp) _ h call)
  · obtain ⟨_, rfl, h, hcall⟩ := Program.Allows.behind_note h hcall nofun
    obtain ⟨verdict, _, _, rfl, h, hcall⟩ := h.behind_wait hcall nofun
    obtain ⟨rest, rfl, h, hrest⟩ := h.behind_note hcall nofun
    by_cases hv : verdict.state = .approved
    · obtain rfl := verdict.state_eq_approved_iff.1 hv
      exact ⟨[_, _, _, _, _, _, _], rest, rfl, ⟨rfl, rfl, by simp⟩, h, hrest⟩
    · exact absurd hrest (hdenied _ hv rest h call)

namespace Gateway

theorem neverExecutes_read (g : Gateway) {t : RequestTrace} (ht : t.state = .received) :
    (g.read t).NeverExecutes window := by
  rw [g.read_eq ht]
  intro history h call hcall
  obtain ⟨_, rfl, h, hcall⟩ := h.behind_note hcall nofun
  obtain ⟨answer, _, _, rfl, h, hcall⟩ := h.behind_wait hcall nofun
  exact (g.afterQuery_endsWith _ answer).neverExecutes _ h call hcall

theorem neverExecutes_reject {t : RequestTrace} (ht : t.state.canTransition .rejected = true)
    (error : Option String) : (t.reject error).NeverExecutes window := by
  rw [RequestTrace.reject_eq ht]
  have hend : (Program.note (.entered .rejected)
      ({ t with state := .rejected }.finish .rejected (.notExecuted (some false) error t.id)
        none)).EndsWith fun _ => True := trivial
  exact hend.neverExecutes

theorem neverExecutes_fail (t : RequestTrace) (error : GatewayError) :
    (t.fail error).NeverExecutes window := by
  have hend : (t.fail error).EndsWith fun _ => True := trivial
  exact hend.neverExecutes

/-- A statement was approved before it is sent to its database. -/
theorem exists_execute_of_write {t : RequestTrace} {context : ApprovalContext}
    (ht : t.state = .received) (hcontext : t.request.approvalContext = some context)
    (h : (write t false).Allows window history) (hcall : .called (.execute call) ∈ history) :
    ∃ before rest, history = before ++ rest ∧ ReadyToExecute before ∧
      (execute { t with state := .awaitingApproval, granted := true }
        ⟨t.id, .approved, none⟩).Allows window rest ∧ .called (.execute call) ∈ rest := by
  rw [write_eq ht hcontext] at h
  obtain ⟨_, rfl, h, hcall⟩ := h.behind_note hcall nofun
  have hdenied : ∀ session : ApprovalSession, session.state ≠ .approved →
      ((if session.isApproved then
          execute { t with state := .awaitingApproval, granted := true } session
        else RequestTrace.reject { t with state := .awaitingApproval } session.denial) :
          Program ExecutionResult).NeverExecutes window := by
    intro session hs
    rw [if_neg (by simpa [ApprovalSession.isApproved] using hs)]
    exact neverExecutes_reject rfl _
  obtain ⟨before, rest, rfl, hbefore, h, hcall⟩ := ApprovalRequest.exists_ready hdenied h hcall
  refine ⟨.noted (.entered .awaitingApproval) :: before, rest, rfl, ?_, h, hcall⟩
  exact ⟨hbefore.endings, hbefore.steps, by simpa using hbefore.going⟩

/-- A statement that was sent to its database belongs to a write that was approved before. -/
theorem exists_execute (h : (g.handle id request).Allows window history)
    (hcall : .called (.execute call) ∈ history) :
    ∃ before rest, history = before ++ rest ∧ ReadyToExecute before ∧
      (execute { RequestTrace.received id request with
          statement := some .write, state := .awaitingApproval, granted := true }
        ⟨id, .approved, none⟩).Allows window rest ∧ .called (.execute call) ∈ rest := by
  rcases g.handle_cases id request with ⟨t, error, heq⟩ | ⟨t, error, ht, heq⟩ | ⟨_, _, heq⟩ |
    ⟨_, context, _, _, _, hcontext, heq⟩
  · rw [heq] at h
    exact absurd hcall (neverExecutes_fail t error _ h call)
  · rw [heq] at h
    exact absurd hcall (neverExecutes_reject (by rw [ht]; rfl) error _ h call)
  · rw [heq] at h
    exact absurd hcall (neverExecutes_read g rfl _ h call)
  · rw [heq] at h
    exact exists_execute_of_write (by rfl) (by exact hcontext) h hcall

end Gateway

theorem ReadyToExecute.recordedAs {before after : List Observation} {outcome : RequestState}
    {approval : ApprovalState} {e : ExecuteEvent} (h : ReadyToExecute before)
    (hending : after.filterMap Observation.ending? = [e]) (houtcome : e.outcome = outcome)
    (hsteps : (after.filterMap Observation.approvalStep?).getLastD .approved = approval) :
    RecordedAs (before ++ after) outcome approval := by
  constructor
  · refine ⟨e, ?_, houtcome⟩
    rw [List.filterMap_append, h.endings, hending, List.nil_append]
  · rw [List.filterMap_append, h.steps, List.getLast?_append, ← hsteps, List.getLastD_eq_getLast?]
    cases (after.filterMap Observation.approvalStep?).getLast? <;> rfl

/-- What the answer of the database makes of a request and of its approval. -/
def RecordedAs.OfAnswer (history : List Observation) : Except CallFailure Nat → Prop
  | .ok _ => RecordedAs history .succeeded .executed
  | .error _ => RecordedAs history .failed .executionFailed

/-- Behind the answer of the database there are only notes and the result. -/
theorem Gateway.mem_history_of_afterExecute {t : RequestTrace} {s : ApprovalSession}
    {answer : Except CallFailure Nat} (h : (afterExecute t s answer).Allows window history)
    {o : Observation} (ho : o ∈ history) :
    (∃ n, o = .noted n) ∨ ∃ result, o = .returned result := by
  have hend : (afterExecute t s answer).EndsWith fun _ => True := by
    cases answer <;> trivial
  exact hend.mem_history h ho

/-- A request that returns has come to the end of what follows the answer. -/
theorem recordedAs_of_afterExecute {before rest : List Observation} {t : RequestTrace}
    {s : ApprovalSession} {answer : Except CallFailure Nat} {elapsed : Nat}
    (hbefore : ReadyToExecute before) (h : (Gateway.afterExecute t s answer).Allows window rest)
    (hreturned : .returned result ∈ rest) :
    RecordedAs.OfAnswer (before ++ .called (.execute call) ::
      .answered (.execute call) answer elapsed :: rest) answer := by
  cases answer with
  | ok rowsAffected =>
    obtain ⟨_, rfl, h, hreturned⟩ := Program.Allows.behind_note h hreturned nofun
    obtain ⟨_, rfl, h, hreturned⟩ := Program.Allows.behind_note h hreturned nofun
    obtain ⟨_, rfl, h, hreturned⟩ := Program.Allows.behind_note h hreturned nofun
    cases h with
    | start => cases hreturned
    | returned => exact hbefore.recordedAs rfl rfl rfl
  | error failure =>
    obtain ⟨_, rfl, h, hreturned⟩ := Program.Allows.behind_note h hreturned nofun
    obtain ⟨_, rfl, h, hreturned⟩ := Program.Allows.behind_note h hreturned nofun
    cases h with
    | start => cases hreturned
    | returned => exact hbefore.recordedAs rfl rfl rfl

theorem recorded_of_execute {before rest : List Observation} {t : RequestTrace} {s : ApprovalSession}
    (ht : t.state = .awaitingApproval) (hs : s.state = .approved) (hbefore : ReadyToExecute before)
    (h : (Gateway.execute t s).Allows window rest) (hcall : .called (.execute call) ∈ rest) :
    (∀ result, .returned result ∈ rest → ∃ answer elapsed,
      .answered (.execute call) answer elapsed ∈ rest ∧
        RecordedAs.OfAnswer (before ++ rest) answer) ∧
    (.abandoned ∈ rest → RecordedAs (before ++ rest) .rejected .approved) := by
  rw [Gateway.execute_eq ht hs] at h
  cases h with
  | start => cases hcall
  | called => simp
  | abandoned =>
    constructor
    · simp [RequestTrace.abandonment]
    · intro _
      exact hbefore.recordedAs rfl rfl rfl
  | @answered _ _ _ history answer elapsed _ h =>
    have hcall : call = t.call := by
      have hother : .called (.execute call) ∉ history := fun ho => by
        simpa using Gateway.mem_history_of_afterExecute h ho
      simpa [hother] using hcall
    subst hcall
    constructor
    · intro result hreturned
      have hreturned : .returned result ∈ history := by simpa using hreturned
      exact ⟨answer, elapsed, by simp, recordedAs_of_afterExecute hbefore h hreturned⟩
    · intro habandoned
      have habandoned : .abandoned ∈ history := by simpa using habandoned
      simpa using Gateway.mem_history_of_afterExecute h habandoned

/-- Whatever else happens, a request whose statement was sent to its database is recorded by what the
database answered once it returns, and as rejected, with its approval left open, if it is given up. -/
theorem execution_recorded {Connection : Type} {g : OpenGateway Connection}
    {actions : List Action} {i : Nat} {f : Flight}
    (hf : (Traffic.after g actions).flights[i]? = some f)
    (hcall : .called (.execute call) ∈ (Traffic.after g actions).history i) :
    (∀ result, .returned result ∈ (Traffic.after g actions).history i →
      ∃ answer elapsed, .answered (.execute call) answer elapsed ∈
          (Traffic.after g actions).history i ∧
        RecordedAs.OfAnswer ((Traffic.after g actions).history i) answer) ∧
    (.abandoned ∈ (Traffic.after g actions).history i →
      RecordedAs ((Traffic.after g actions).history i) .rejected .approved) := by
  have hallows := Traffic.history_allowed hf
  obtain ⟨before, rest, heq, hbefore, h, hcall⟩ := Gateway.exists_execute hallows hcall
  obtain ⟨hreturned, habandoned⟩ := recorded_of_execute (by rfl) (by rfl) hbefore h hcall
  rw [heq]
  constructor
  · intro result hmem
    have hmem := (List.mem_append.1 hmem).resolve_left fun h => (hbefore.going _ h).2 result rfl
    obtain ⟨answer, elapsed, hanswer, hrecorded⟩ := hreturned result hmem
    exact ⟨answer, elapsed, List.mem_append_right _ hanswer, hrecorded⟩
  · intro hmem
    exact habandoned ((List.mem_append.1 hmem).resolve_left fun h => (hbefore.going _ h).1 rfl)

end StatementGate
