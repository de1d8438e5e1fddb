import StatementGate.Proofs.Gateway.Execution
import StatementGate.Proofs.Outcome

/-! # How requests close

Whichever way the handling of a request goes, one event closes it: the last thing before its result,
or among what is noted when it is given up. What the event says of the request, and what the result
and the event say about each other, is read off the program of the request once, and holds of it in
any traffic. -/

namespace StatementGate

variable {Connection : Type} {g : OpenGateway Connection} {window : Nat}
  {history : List Observation}

/-- Whether the request is a write, by its text or by declaration. -/
def ExecuteRequest.IsWrite (r : ExecuteRequest) : Prop :=
  r.writeIntent = true ∨ classify r.sql = .ok .write

instance (r : ExecuteRequest) : Decidable r.IsWrite :=
  inferInstanceAs (Decidable (r.writeIntent = true ∨ classify r.sql = .ok .write))

/-- Errors by which a gateway would own up to a step that its own states do not allow. -/
def GatewayError.isInternal : GatewayError → Bool
  | .approval _ | .invalidTransition _ _ => true
  | _ => false

/-- Internal errors go by names of their own. -/
theorem GatewayError.isInternal_iff (error : GatewayError) :
    error.isInternal = true ↔ error.kind = "internal_error" ∨ error.kind = "approval_error" := by
  cases error with
  | call failure => cases failure <;> simp [isInternal, kind]
  | _ => simp [isInternal, kind]

/-- Whether the answer to a wait is an operator's approval. -/
def Wait.grants : (w : Wait) → w.Answer → Bool
  | .decision _, .decided .approved => true
  | _, _ => false

def Observation.grants : Observation → Bool
  | .answered w answer _ => w.grants answer
  | _ => false

namespace ExecuteEvent

/-- The event is about this request. -/
structure Concerns (e : ExecuteEvent) (id : String) (request : ExecuteRequest) : Prop where
  requestId_eq : e.requestId = id
  databaseId_eq : e.databaseId = request.databaseId
  sqlHash_eq : e.sqlHash = Sha256.ofText request.sql
  parameterNames_eq : e.parameterNames = request.parameterNames

/-- What the result of a request and the event that closes it say about each other. The flag tells
whether an operator approved the request. -/
structure Accords (e : ExecuteEvent) (request : ExecuteRequest) (granted : Bool)
    (result : ExecutionResult) : Prop where
  approved_eq : e.approved = result.approved
  final : e.outcome = .succeeded ∨ e.outcome = .rejected ∨ e.outcome = .failed
  succeeded_iff : e.outcome = .succeeded ↔ result.executed = true ∧ result.error = none
  succeeded : e.outcome = .succeeded → e.errorKind = none
  read : e.outcome = .succeeded → ¬request.IsWrite →
    result.approved = none ∧ result.rowsAffected = none ∧
      ∃ rows, result.rows = some rows ∧ e.rowsReturned = some rows.length
  written : e.outcome = .succeeded → request.IsWrite →
    result.approved = some true ∧ result.rows = none ∧
      ∃ count, result.rowsAffected = some count ∧ e.rowsAffected = some count
  rejected_iff : e.outcome = .rejected ↔
    e.errorKind = none ∧ result.executed = false ∧ result.approved = some false
  rejected : e.outcome = .rejected → result.rows = none
  failed_iff : e.outcome = .failed ↔ e.errorKind ≠ none
  failed : e.outcome = .failed → result.error ≠ none ∧ result.rows = none ∧
    (result.executed = true ↔ e.errorKind = some "sanitization_gap") ∧
    result.approved = if request.IsWrite then some granted else none
  cause : e.outcome = .failed → ∃ error : GatewayError, error.isInternal = false ∧
    e.errorKind = some error.kind ∧ result.error = some (error.describe request.sql)
  external : ∀ error : GatewayError, error.isInternal = true → e.errorKind ≠ some error.kind

/-- The event closes the request with the given result, or as abandoned if there is none. -/
def Closes (id : String) (request : ExecuteRequest) (granted : Bool) :
    Option ExecutionResult → ExecuteEvent → Prop
  | some result, e => e.Concerns id request ∧ e.Accords request granted result
  | none, e => e.Concerns id request ∧ e.outcome = .rejected ∧ e.errorKind = some "abandoned"

theorem Closes.concerns {e : ExecuteEvent} {id : String} {request : ExecuteRequest} {granted : Bool}
    {result? : Option ExecutionResult} (h : Closes id request granted result? e) :
    e.Concerns id request := by
  cases result? <;> exact h.1

end ExecuteEvent

/-- Every way through the program closes with one event. The flag tells whether an operator has
approved so far. -/
inductive Program.Closes (closes : Bool → Option ExecutionResult → ExecuteEvent → Prop) :
    Bool → Program ExecutionResult → Prop
  | ending {granted : Bool} {result : ExecutionResult} {e : ExecuteEvent} :
    closes granted (some result) e →
    Closes closes granted (.note (.recorded (.execute e)) (.done result))
  | noted {granted : Bool} {n : Note} {next : Program ExecutionResult} :
    (Observation.noted n).ending? = none → Closes closes granted next →
    Closes closes granted (.note n next)
  | wait {granted : Bool} {w : Wait} {notes : List Note}
      {next : w.Answer → Program ExecutionResult} {e : ExecuteEvent} :
    (notes.map Observation.noted).filterMap Observation.ending? = [e] → closes granted none e →
    (∀ answer, Closes closes (granted || w.grants answer) (next answer)) →
    Closes closes granted (.wait w notes next)

section Run

variable {closes : Bool → Option ExecutionResult → ExecuteEvent → Prop} {granted : Bool}
  {p : Program ExecutionResult}

/-- A history that closed holds one event, which says how. -/
structure ClosedBy (closes : Bool → Option ExecutionResult → ExecuteEvent → Prop) (granted : Bool)
    (history : List Observation) : Prop where
  returned : ∀ result, .returned result ∈ history → ∃ e,
    history.filterMap Observation.ending? = [e] ∧
      closes (granted || history.any Observation.grants) (some result) e
  abandoned : .abandoned ∈ history → ∃ e,
    history.filterMap Observation.ending? = [e] ∧
      closes (granted || history.any Observation.grants) none e

theorem any_grants_noted (notes : List Note) :
    (notes.map Observation.noted).any Observation.grants = false := by
  simp [Observation.grants]

theorem Program.Closes.closedBy (h : p.Closes closes granted) (hallows : p.Allows window history) :
    ClosedBy closes granted history := by
  induction h generalizing history with
  | @ending granted result e he =>
    cases hallows with
    | start => exact ⟨by simp, by simp⟩
    | noted _ hallows =>
      cases hallows with
      | start => exact ⟨by simp, by simp⟩
      | returned =>
        refine ⟨fun r hr => ⟨e, rfl, ?_⟩, by simp⟩
        obtain rfl : r = result := by simpa using hr
        simpa [Observation.grants] using he
  | @noted granted n next hn _ ih =>
    cases hallows with
    | start => exact ⟨by simp, by simp⟩
    | noted _ hallows =>
      obtain ⟨hreturned, habandoned⟩ := ih hallows
      constructor
      · intro result hr
        simpa [hn, Observation.grants] using hreturned result (by simpa using hr)
      · intro ha
        simpa [hn, Observation.grants] using habandoned (by simpa using ha)
  | @wait granted w notes next e hnotes he _ ih =>
    cases hallows with
    | start => exact ⟨by simp, by simp⟩
    | called => exact ⟨by simp, by simp⟩
    | @answered _ _ _ history answer elapsed _ hallows =>
      obtain ⟨hreturned, habandoned⟩ := ih answer hallows
      rw [Bool.or_assoc] at hreturned habandoned
      exact ⟨fun result hr => hreturned result (by simpa using hr),
        fun ha => habandoned (by simpa using ha)⟩
    | abandoned =>
      refine ⟨by simp, fun _ => ⟨e, hnotes, ?_⟩⟩
      rw [List.any_cons, List.any_cons, any_grants_noted]
      simpa [Observation.grants] using he

/-- Also before a request has closed, its event is one that closes it. -/
theorem Program.Closes.of_mem (h : p.Closes closes granted) (hallows : p.Allows window history)
    {e : ExecuteEvent} (he : e ∈ history.filterMap Observation.ending?) :
    ∃ granted result?, closes granted result? e := by
  induction h generalizing history with
  | @ending granted result e' he' =>
    cases hallows with
    | start => cases he
    | noted _ hallows =>
      obtain rfl : e = e' := by
        cases hallows <;> simpa [Observation.ending?] using he
      exact ⟨_, _, he'⟩
  | @noted granted n next hn _ ih =>
    cases hallows with
    | start => cases he
    | noted _ hallows => exact ih hallows (by simpa [hn] using he)
  | @wait granted w notes next e' hnotes he' _ ih =>
    cases hallows with
    | start => cases he
    | called => simp [Observation.ending?] at he
    | answered answer elapsed _ hallows =>
      exact ih answer hallows (by simpa [Observation.ending?] using he)
    | abandoned =>
      have hmem : e ∈ (notes.map Observation.noted).filterMap Observation.ending? := by
        simpa [Observation.ending?] using he
      rw [hnotes, List.mem_singleton] at hmem
      exact ⟨_, _, hmem ▸ he'⟩

end Run

/-- The trace is that of the request, and its answer whether the request is approved is right. -/
structure RequestTrace.Tells (t : RequestTrace) (id : String) (request : ExecuteRequest)
    (granted : Bool) : Prop where
  id_eq : t.id = id
  request_eq : t.request = request
  approved_eq : t.approved = if request.IsWrite then some granted else none

namespace RequestTrace

variable {t : RequestTrace} {id : String} {request : ExecuteRequest} {granted : Bool}

section Failure

variable (t : RequestTrace) (error : GatewayError)

theorem failureResult_rows : (t.failureResult error).rows = none := by
  cases error <;> rfl

theorem failureResult_error :
    (t.failureResult error).error = some (error.describe t.request.sql) := by
  cases error <;> rfl

theorem failureResult_executed :
    (t.failureResult error).executed = true ↔ error.kind = "sanitization_gap" := by
  cases error with
  | call failure =>
    cases failure <;> simp [failureResult, ExecutionResult.notExecuted, GatewayError.kind]
  | _ => simp [failureResult, ExecutionResult.withheld, ExecutionResult.notExecuted,
      GatewayError.kind]

theorem failureResult_approved (ht : t.Tells id request granted)
    (hsanitize : ∀ e, error = .sanitize e → ¬request.IsWrite) :
    (t.failureResult error).approved = if request.IsWrite then some granted else none := by
  cases error with
  | sanitize e => exact (if_neg (hsanitize e rfl)).symm
  | _ => exact ht.approved_eq

end Failure

theorem closes_fail {error : GatewayError} (ht : t.Tells id request granted)
    (hexternal : error.isInternal = false)
    (hsanitize : ∀ e, error = .sanitize e → ¬request.IsWrite) :
    (t.fail error).Closes (ExecuteEvent.Closes id request) granted := by
  have happroved := t.failureResult_approved error ht hsanitize
  obtain ⟨rfl, rfl, _⟩ := ht
  refine .ending ⟨⟨rfl, rfl, rfl, rfl⟩, ?_⟩
  exact {
    approved_eq := rfl
    final := .inr (.inr rfl)
    succeeded_iff := by simp [failureResult_error]
    succeeded := nofun
    read := nofun
    written := nofun
    rejected_iff := by simp
    rejected := nofun
    failed_iff := by simp
    failed := fun _ => ⟨by simp [failureResult_error], t.failureResult_rows error,
      by simp [failureResult_executed], happroved⟩
    cause := fun _ => ⟨error, hexternal, rfl, t.failureResult_error error⟩
    external := fun internal hinternal heq => by
      rw [GatewayError.isInternal_iff, ← Option.some.inj heq, ← GatewayError.isInternal_iff,
        hexternal] at hinternal
      cases hinternal }

theorem closes_reject (hid : t.id = id) (hrequest : t.request = request)
    (ht : t.state.canTransition .rejected = true) (error : Option String) (granted : Bool) :
    (t.reject error).Closes (ExecuteEvent.Closes id request) granted := by
  subst hid hrequest
  rw [reject_eq ht]
  refine .noted rfl (.ending ⟨⟨rfl, rfl, rfl, rfl⟩, ?_⟩)
  exact {
    approved_eq := rfl
    final := .inr (.inl rfl)
    succeeded_iff := by simp [ExecutionResult.notExecuted]
    succeeded := nofun
    read := nofun
    written := nofun
    rejected_iff := by simp [ExecutionResult.notExecuted]
    rejected := fun _ => rfl
    failed_iff := by simp
    failed := nofun
    cause := nofun
    external := nofun }

/-- A request closes well that succeeds with a result of its kind. -/
theorem closes_success {result : ExecutionResult} (hid : t.id = id) (hrequest : t.request = request)
    (hexecuted : result.executed = true) (herror : result.error = none)
    (hread : ¬request.IsWrite → result.approved = none ∧ result.rowsAffected = none ∧
      ∃ rows, result.rows = some rows ∧ t.rowsReturned = some rows.length)
    (hwrite : request.IsWrite → result.approved = some true ∧ result.rows = none ∧
      ∃ count, result.rowsAffected = some count ∧ t.rowsAffected = some count) :
    (t.finish .succeeded result none).Closes (ExecuteEvent.Closes id request) granted := by
  subst hid hrequest
  refine .ending ⟨⟨rfl, rfl, rfl, rfl⟩, ?_⟩
  exact {
    approved_eq := rfl
    final := .inl rfl
    succeeded_iff := by simp [hexecuted, herror]
    succeeded := fun _ => rfl
    read := fun _ => hread
    written := fun _ => hwrite
    rejected_iff := by simp [hexecuted]
    rejected := nofun
    failed_iff := by simp
    failed := nofun
    cause := nofun
    external := nofun }

/-- What is noted when a request is given up closes it as abandoned. -/
theorem closes_abandonment (hid : t.id = id) (hrequest : t.request = request) (w : Wait)
    {next : w.Answer → Program ExecutionResult}
    (hnext : ∀ answer,
      (next answer).Closes (ExecuteEvent.Closes id request) (granted || w.grants answer)) :
    (Program.wait w t.abandonment next).Closes (ExecuteEvent.Closes id request) granted := by
  subst hid hrequest
  exact .wait rfl ⟨⟨rfl, rfl, rfl, rfl⟩, rfl, rfl⟩ hnext

end RequestTrace

/-- Sanitizing keeps the number of rows. -/
theorem SanitizerRegistry.length_sanitize {r : SanitizerRegistry} {output : QueryOutput}
    {rows : List Row} (h : r.sanitize output = .ok rows) : rows.length = output.rows.length := by
  simp only [sanitize] at h
  split at h
  · rename_i hempty
    cases h
    rw [List.isEmpty_iff.1 hempty]
  · obtain ⟨masks, _, h⟩ := bind_eq_ok.1 h
    exact (mapM_eq_ok.1 h).length_eq.symm

/-- A review closes if all that may follow it does. -/
theorem ApprovalRequest.closes_reviewed
    {closes : Bool → Option ExecutionResult → ExecuteEvent → Prop} (r : ApprovalRequest)
    {notes : List Note} {go : ApprovalSession → Program ExecutionResult} {e : ExecuteEvent}
    (hnotes : (notes.map Observation.noted).filterMap Observation.ending? = [e])
    (he : closes false none e)
    (hgo : ∀ session : ApprovalSession, (go session).Closes closes session.isApproved) :
    (r.reviewed notes go).Closes closes false := by
  refine .noted rfl (.wait hnotes he fun surfaced => ?_)
  cases surfaced with
  | error failure => exact .noted rfl (hgo ⟨r.requestId, .rejected, some failure.message⟩)
  | ok =>
    refine .noted rfl (.wait hnotes he fun verdict => .noted rfl ?_)
    have hgrants : Wait.grants (.decision r.requestId) verdict =
        ApprovalSession.isApproved ⟨r.requestId, verdict.state, verdict.detail⟩ := by
      cases verdict with
      | decided decision => cases decision <;> rfl
      | failed error => rfl
      | expired => rfl
    rw [hgrants]
    exact hgo _

namespace Gateway

variable {t : RequestTrace} {id : String} {request : ExecuteRequest}

theorem closes_read (g : Gateway) (ht : t.Tells id request false) (hstate : t.state = .received)
    (hread : ¬request.IsWrite) :
    (g.read t).Closes (ExecuteEvent.Closes id request) false := by
  obtain ⟨hid, hrequest, happroved⟩ := ht
  rw [g.read_eq hstate]
  refine .noted rfl (RequestTrace.closes_abandonment hid hrequest _ fun answer => ?_)
  cases answer with
  | error failure => exact RequestTrace.closes_fail ⟨hid, hrequest, happroved⟩ rfl (by simp)
  | ok output =>
    simp only [afterQuery]
    cases hrows : g.sanitizers.sanitize output with
    | error error =>
      exact RequestTrace.closes_fail ⟨hid, hrequest, happroved⟩ rfl fun _ _ => hread
    | ok rows =>
      dsimp only
      cases hencoded : rows.mapM Row.encode with
      | error error => exact RequestTrace.closes_fail ⟨hid, hrequest, happroved⟩ rfl (by simp)
      | ok encoded =>
        have hlength : output.rows.length = encoded.length := by
          rw [← (mapM_eq_ok.1 hencoded).length_eq, SanitizerRegistry.length_sanitize hrows]
        exact .noted rfl (RequestTrace.closes_success hid hrequest rfl rfl
          (fun _ => ⟨rfl, rfl, encoded, rfl, congrArg some hlength⟩)
          (fun hwrite => absurd hwrite hread))

theorem closes_execute {s : ApprovalSession} (ht : t.Tells id request true)
    (hstate : t.state = .awaitingApproval) (hs : s.state = .approved) (hwrite : request.IsWrite) :
    (execute t s).Closes (ExecuteEvent.Closes id request) true := by
  obtain ⟨hid, hrequest, happroved⟩ := ht
  rw [execute_eq hstate hs]
  refine RequestTrace.closes_abandonment hid hrequest _ fun answer => ?_
  cases answer with
  | ok rowsAffected =>
    exact .noted rfl (.noted rfl (RequestTrace.closes_success hid hrequest rfl rfl
      (fun hread => absurd hwrite hread) (fun _ => ⟨rfl, rfl, rowsAffected, rfl, rfl⟩)))
  | error failure =>
    exact .noted rfl (RequestTrace.closes_fail ⟨hid, hrequest, happroved⟩ rfl (by simp))

theorem closes_write (readOnly : Bool) (hid : t.id = id) (hrequest : t.request = request)
    (hstate : t.state = .received) (hstatement : t.statement = some .write)
    (hgranted : t.granted = false) (hwrite : request.IsWrite) :
    (write t readOnly).Closes (ExecuteEvent.Closes id request) false := by
  have hknows : ∀ granted, t.granted = granted → t.Tells id request granted :=
    fun granted h => ⟨hid, hrequest, by simp [RequestTrace.approved, hstatement, hwrite, h]⟩
  cases hcontext : t.request.approvalContext with
  | none =>
    rw [write_of_no_context hcontext]
    exact RequestTrace.closes_reject hid hrequest (by rw [hstate]; rfl) _ _
  | some context =>
    cases readOnly with
    | true =>
      rw [write_of_readOnly hcontext]
      exact RequestTrace.closes_fail (hknows false hgranted) rfl (by simp)
    | false =>
      rw [write_eq hstate hcontext]
      subst hid hrequest
      refine .noted rfl (ApprovalRequest.closes_reviewed _ rfl ⟨⟨rfl, rfl, rfl, rfl⟩, rfl, rfl⟩
        fun session => ?_)
      by_cases hsession : session.isApproved = true
      · rw [if_pos hsession, hsession]
        exact closes_execute ⟨rfl, rfl, by simp [RequestTrace.approved, hstatement, hwrite]⟩ rfl
          (eq_of_beq hsession) hwrite
      · rw [if_neg hsession]
        exact RequestTrace.closes_reject (by rfl) (by rfl) (by rfl) _ _

/-- Every way through the handling of a request closes it. -/
theorem closes_handle (g : Gateway) (id : String) (request : ExecuteRequest) :
    (g.handle id request).Closes (ExecuteEvent.Closes id request) false := by
  rcases g.handle_routes id request with ⟨error, hfound, h⟩ | ⟨found, hfound, h⟩ |
    ⟨found, readOnly, hfound, hwrite, _, h⟩ | ⟨hfound, hintent, h⟩
  · rw [h]
    refine RequestTrace.closes_fail ⟨rfl, rfl, ?_⟩ rfl (by simp)
    simp [RequestTrace.approved, RequestTrace.received, ExecuteRequest.IsWrite, hfound]
  · rw [h]
    refine RequestTrace.closes_fail ⟨rfl, rfl, ?_⟩ rfl (by simp)
    cases hintent : request.writeIntent <;>
      simp [RequestTrace.approved, RequestTrace.received, ExecuteRequest.IsWrite, hfound, hintent]
  · have hwrite : request.IsWrite := by simpa [ExecuteRequest.IsWrite, hfound, or_comm] using hwrite
    rw [h]
    exact closes_write readOnly rfl rfl rfl rfl rfl hwrite
  · have hread : ¬request.IsWrite := by simp [ExecuteRequest.IsWrite, hfound, hintent]
    rw [h]
    refine closes_read g ⟨rfl, rfl, ?_⟩ rfl hread
    simp [RequestTrace.approved, RequestTrace.received, hread, hintent]

end Gateway

/-- The result of a request agrees with the one event that closes it, whatever the databases, the
policies and the operators did, and no internal error ever comes about. -/
theorem result_accords_with_event {actions : List Action} {i : Nat} {f : Flight}
    {result : ExecutionResult} (hf : (Traffic.after g actions).flights[i]? = some f)
    (hresult : .returned result ∈ (Traffic.after g actions).history i) :
    ∃ e, ((Traffic.after g actions).history i).filterMap Observation.ending? = [e] ∧
      e.Accords f.request (((Traffic.after g actions).history i).any Observation.grants)
        result := by
  have hcloses := g.gateway.closes_handle f.id f.request
  obtain ⟨e, hending, _, haccords⟩ :=
    (hcloses.closedBy (Traffic.history_allowed hf)).returned result hresult
  exact ⟨e, hending, by simpa using haccords⟩

/-- Two deletions side by side, their statements classified. -/
theorem after_deletions (moves : List Action) :
    Traffic.after deletionGateway (.submit deletion :: .submit deletion :: moves) =
      moves.foldl (Traffic.act deletionGateway)
        ⟨0, 3, [.ofWrite "req-1" deletion, .ofWrite "req-2" deletion], []⟩ := by
  have hclass : classify deletion.sql = .ok .write := by decide +kernel
  have hsubmit := Traffic.act_submit_of_write (g := deletionGateway) hclass (.inl rfl) (by decide)
  rw [Traffic.after, List.foldl_cons, List.foldl_cons, hsubmit, hsubmit]
  rfl

/-- What happens to two deletions, of which one is executed and the other given up. -/
def deletionMoves : List Action :=
  [.proceed, .proceed, .proceed].map (.move 1) ++ approvedMoves ++
    [.move 1 .abandon,
      .move 0 (.answer (.execute ⟨"main", "DELETE FROM t", KeyMap.empty⟩) (.ok 3))] ++
    [.proceed, .proceed, .proceed, .proceed].map (.move 0)

/-- The traffic of two deletions, of which one is executed and the other given up. -/
def deletions : Traffic :=
  Traffic.after deletionGateway (.submit deletion :: .submit deletion :: deletionMoves)

/-- The result of the executed deletion agrees with its event. -/
theorem deletion_accords_with_event :
    ∃ f e, deletions.flights[0]? = some f ∧ .returned (.written 3 "req-1") ∈ deletions.history 0 ∧
      (deletions.history 0).filterMap Observation.ending? = [e] ∧
      e.Accords f.request ((deletions.history 0).any Observation.grants) (.written 3 "req-1") := by
  have hflight : ∃ f, deletions.flights[0]? = some f := by
    rw [deletions, after_deletions]
    exact ⟨_, rfl⟩
  have hreturned : .returned (.written 3 "req-1") ∈ deletions.history 0 := by
    rw [deletions, after_deletions]
    exact List.mem_of_getElem? (i := 13) rfl
  obtain ⟨f, hf⟩ := hflight
  obtain ⟨e, hending, haccords⟩ := result_accords_with_event hf hreturned
  exact ⟨f, e, hf, hreturned, hending, haccords⟩

end StatementGate
