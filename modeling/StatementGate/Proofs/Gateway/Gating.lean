import Mathlib.Control.Monad.Basic
import StatementGate.Proofs.Gateway.Course
import StatementGate.Proofs.Gateway.History

/-! # Approval gates execution

In any traffic, a database is queried only for a statement that reads, and executes a statement at
most once for a request, after an operator was shown this very statement and approved it in time. -/

namespace StatementGate

variable {g : Gateway} {window : Nat} {id : String} {request : ExecuteRequest}
  {history : List Observation}

def Observation.isExecute : Observation → Bool
  | .called (.execute _) => true
  | _ => false

/-- The request was shown to an operator, approved within the wait window, and then called. -/
def ApprovalRequest.PrecedesCall (approval : ApprovalRequest) (window : Nat) (call : DatabaseCall)
    (history : List Observation) : Prop :=
  ∃ shown decided, decided ≤ window ∧
    [.called (.surface approval), .answered (.surface approval) (.ok ()) shown,
      .called (.decision approval.requestId),
      .answered (.decision approval.requestId) (.decided .approved) decided,
      .called (.execute call)].Sublist history

/-- What may lead to the execution of a statement: it is a write, by its text or by declaration, on
a database that may be written, and what the operator approved is what the database is sent. -/
structure ExecutionGranted (g : Gateway) (window : Nat) (id : String) (request : ExecuteRequest)
    (call : DatabaseCall) (history : List Observation) : Prop where
  write : ∃ found, classify request.sql = .ok found ∧ (found = .write ∨ request.writeIntent = true)
  writable : g.databases.get? request.databaseId = some false
  call_eq : call = ⟨request.databaseId, request.sql, request.parameters⟩
  approved : ∃ context, request.approvalContext = some context ∧
    ApprovalRequest.PrecedesCall
      ⟨id, request.databaseId, request.sql, request.parameterNames, context⟩ window call history

/-- A history in which approval gates execution. -/
structure Gated (g : Gateway) (window : Nat) (id : String) (request : ExecuteRequest)
    (history : List Observation) : Prop where
  query : ∀ call, .called (.query call) ∈ history →
    classify request.sql = .ok .read ∧ request.writeIntent = false
  once : history.countP Observation.isExecute ≤ 1
  granted : ∀ call, .called (.execute call) ∈ history →
    ExecutionGranted g window id request call history
  unapproved : ∀ result, .returned result ∈ history →
    result.approved = none ∨ result.approved = some false →
    ∀ call, .called (.execute call) ∉ history
  consistent : ∀ result, .returned result ∈ history → result.executed = true →
    result.approved ≠ some false

theorem countP_isExecute_eq_zero_iff :
    history.countP Observation.isExecute = 0 ↔ ∀ call, .called (.execute call) ∉ history := by
  rw [List.countP_eq_zero]
  constructor
  · intro h call hmem
    exact h _ hmem rfl
  · intro h o hmem
    simp only [Observation.isExecute]
    split
    · exact absurd hmem (h _)
    · exact Bool.false_ne_true

theorem ExecutionGranted.append {call : DatabaseCall}
    (h : ExecutionGranted g window id request call history) (more : List Observation) :
    ExecutionGranted g window id request call (history ++ more) := by
  obtain ⟨hwrite, hwritable, hcall, context, hcontext, shown, decided, htime, hsub⟩ := h
  exact ⟨hwrite, hwritable, hcall, context, hcontext, shown, decided, htime,
    hsub.trans (List.sublist_append_left _ _)⟩

/-- Neither a call of a database nor a result. -/
def Observation.Neutral : Observation → Prop
  | .called (.query _) | .called (.execute _) | .returned _ => False
  | _ => True

namespace Gated

theorem nil : Gated g window id request [] :=
  ⟨by simp, by simp, by simp, by simp, by simp⟩

theorem append_neutral (h : Gated g window id request history) (more : List Observation)
    (hm : ∀ o ∈ more, o.Neutral) : Gated g window id request (history ++ more) := by
  have hquery : ∀ call, .called (.query call) ∈ history ++ more →
      .called (.query call) ∈ history := fun call hmem =>
    (List.mem_append.1 hmem).resolve_right (hm _)
  have hexecute : ∀ call, .called (.execute call) ∈ history ++ more →
      .called (.execute call) ∈ history := fun call hmem =>
    (List.mem_append.1 hmem).resolve_right (hm _)
  have hreturned : ∀ result, .returned result ∈ history ++ more →
      .returned result ∈ history := fun result hmem =>
    (List.mem_append.1 hmem).resolve_right (hm _)
  have hcount : more.countP Observation.isExecute = 0 :=
    countP_isExecute_eq_zero_iff.2 fun call hmem => hm _ hmem
  refine ⟨fun call hmem => h.query call (hquery call hmem), ?_,
    fun call hmem => (h.granted call (hexecute call hmem)).append more,
    fun result hmem hr call hcall =>
      h.unapproved result (hreturned result hmem) hr call (hexecute call hcall),
    fun result hmem => h.consistent result (hreturned result hmem)⟩
  rw [List.countP_append, hcount]
  exact h.once

theorem concat_query {call : DatabaseCall} (h : Gated g window id request history)
    (hread : classify request.sql = .ok .read ∧ request.writeIntent = false) :
    Gated g window id request (history ++ [.called (.query call)]) := by
  refine ⟨fun _ _ => hread, ?_, fun c hmem => ?_, fun result hmem hr c hc => ?_,
    fun result hmem => ?_⟩
  · simpa [List.countP_append, Observation.isExecute] using h.once
  · exact (h.granted c (by simpa using hmem)).append _
  · exact h.unapproved result (by simpa using hmem) hr c (by simpa using hc)
  · exact h.consistent result (by simpa using hmem)

theorem concat_execute {call : DatabaseCall} (h : Gated g window id request history)
    (hfirst : ∀ c, .called (.execute c) ∉ history) (hopen : ∀ result, .returned result ∉ history)
    (hgranted : ExecutionGranted g window id request call
      (history ++ [.called (.execute call)])) :
    Gated g window id request (history ++ [.called (.execute call)]) := by
  refine ⟨fun c hmem => h.query c (by simpa using hmem), ?_, fun c hmem => ?_,
    fun result hmem => absurd hmem (by simpa using hopen result),
    fun result hmem => absurd hmem (by simpa using hopen result)⟩
  · rw [List.countP_append, countP_isExecute_eq_zero_iff.2 hfirst]
    simp [Observation.isExecute]
  · rcases List.mem_append.1 hmem with hmem | hmem
    · exact absurd hmem (hfirst c)
    · simp only [List.mem_singleton, Observation.called.injEq, Wait.execute.injEq] at hmem
      exact hmem ▸ hgranted

theorem concat_returned {result : ExecutionResult} (h : Gated g window id request history)
    (happroved : (∀ c, .called (.execute c) ∉ history) ∨ result.approved = some true)
    (hconsistent : result.executed = true → result.approved ≠ some false) :
    Gated g window id request (history ++ [.returned result]) := by
  refine ⟨fun c hmem => h.query c (by simpa using hmem), ?_,
    fun c hmem => (h.granted c (by simpa using hmem)).append _, fun r hmem hr c hcall => ?_,
    fun r hmem => ?_⟩
  · simpa [List.countP_append, Observation.isExecute] using h.once
  · have hc : .called (.execute c) ∈ history := by simpa using hcall
    rcases List.mem_append.1 hmem with hmem | hmem
    · exact h.unapproved r hmem hr c hc
    · obtain rfl : r = result := by simpa using hmem
      rcases happroved with hnone | htrue
      · exact hnone c hc
      · simp [htrue] at hr
  · rcases List.mem_append.1 hmem with hmem | hmem
    · exact h.consistent r hmem
    · obtain rfl : r = result := by simpa using hmem
      exact hconsistent

end Gated

namespace Program

/-- Continuing a history with the program keeps it gated. -/
def KeepsGated (g : Gateway) (window : Nat) (id : String) (request : ExecuteRequest)
    (past : List Observation) (p : Program ExecutionResult) : Prop :=
  ∀ history, p.Allows window history → Gated g window id request (past ++ history)

variable {past : List Observation}

theorem keepsGated_done {result : ExecutionResult} (h : Gated g window id request past)
    (hr : Gated g window id request (past ++ [.returned result])) :
    (done result).KeepsGated g window id request past := by
  intro history hallows
  cases hallows with
  | start => rwa [List.append_nil]
  | returned => exact hr

theorem keepsGated_note {n : Note} {next : Program ExecutionResult}
    (h : Gated g window id request past)
    (hnext : Gated g window id request (past ++ [.noted n]) →
      next.KeepsGated g window id request (past ++ [.noted n])) :
    (note n next).KeepsGated g window id request past := by
  intro history hallows
  cases hallows with
  | start => rwa [List.append_nil]
  | noted _ hallows =>
    have hn := h.append_neutral [.noted n] (by simp [Observation.Neutral])
    simpa using hnext hn _ hallows

theorem keepsGated_wait {w : Wait} {notes : List Note} {next : w.Answer → Program ExecutionResult}
    (h : Gated g window id request past)
    (hcall : Gated g window id request (past ++ [.called w]))
    (hnext : ∀ answer elapsed, w.admits window elapsed answer →
      Gated g window id request (past ++ [.called w, .answered w answer elapsed]) →
      (next answer).KeepsGated g window id request
        (past ++ [.called w, .answered w answer elapsed])) :
    (wait w notes next).KeepsGated g window id request past := by
  intro history hallows
  cases hallows with
  | start => rwa [List.append_nil]
  | called => exact hcall
  | answered answer elapsed hadmits hallows =>
    have ha := hcall.append_neutral [.answered w answer elapsed] (by simp [Observation.Neutral])
    rw [List.append_assoc] at ha
    simpa using hnext answer elapsed hadmits ha _ hallows
  | abandoned =>
    have ha := hcall.append_neutral (.abandoned :: notes.map .noted)
      (by simp [Observation.Neutral])
    simpa using ha

/-- The program waits for nothing, and its result is as stated. -/
def EndsWith (good : ExecutionResult → Prop) : Program ExecutionResult → Prop
  | .done result => good result
  | .note _ next => next.EndsWith good
  | .wait _ _ _ => False

theorem EndsWith.keepsGated {good : ExecutionResult → Prop} {p : Program ExecutionResult}
    (hp : p.EndsWith good) (h : Gated g window id request past)
    (hgood : ∀ result, good result →
      ((∀ c, .called (.execute c) ∉ past) ∨ result.approved = some true) ∧
      (result.executed = true → result.approved ≠ some false)) :
    p.KeepsGated g window id request past := by
  induction p generalizing past with
  | done result =>
    obtain ⟨happroved, hconsistent⟩ := hgood result hp
    exact keepsGated_done h (h.concat_returned happroved hconsistent)
  | note n next ih =>
    refine keepsGated_note h fun hn => ih hp hn fun result hr => ?_
    simpa using hgood result hr
  | wait w notes next ih => exact hp.elim

end Program

namespace ApprovalRequest

/-- A review keeps a history gated if what follows it does: after an approval this very request has
been shown and approved, and otherwise nobody has approved anything. -/
theorem keepsGated_reviewed (r : ApprovalRequest) (notes : List Note)
    {go : ApprovalSession → Program ExecutionResult} {past : List Observation}
    (h : Gated g window id request past) (hpast : ∀ o ∈ past, o.Neutral)
    (hdenied : ∀ (session : ApprovalSession) (past : List Observation),
      session.state ≠ .approved → Gated g window id request past → (∀ o ∈ past, o.Neutral) →
      (go session).KeepsGated g window id request past)
    (hgranted : ∀ (session : ApprovalSession) (past : List Observation),
      session.state = .approved → Gated g window id request past → (∀ o ∈ past, o.Neutral) →
      (∀ call, r.PrecedesCall window call (past ++ [.called (.execute call)])) →
      (go session).KeepsGated g window id request past) :
    (r.reviewed notes go).KeepsGated g window id request past := by
  refine Program.keepsGated_note h fun h => ?_
  refine Program.keepsGated_wait h (h.append_neutral _ (by simp [Observation.Neutral]))
    fun surfaced shown _ h => ?_
  cases surfaced with
  | error e =>
    refine Program.keepsGated_note h fun h => hdenied _ _ (by simp) h ?_
    simpa [Observation.Neutral, or_imp, forall_and] using hpast
  | ok =>
    refine Program.keepsGated_note h fun h => ?_
    refine Program.keepsGated_wait h (h.append_neutral _ (by simp [Observation.Neutral]))
      fun verdict decided htime h => Program.keepsGated_note h fun h => ?_
    by_cases hv : verdict = .decided .approved
    · subst hv
      refine hgranted _ _ rfl h ?_ fun call => ⟨shown, decided, htime, ?_⟩
      · simpa [Observation.Neutral, or_imp, forall_and] using hpast
      · simp only [List.append_assoc]
        refine List.Sublist.trans ?_ (List.sublist_append_right past _)
        exact .cons _ (.cons_cons _ (.cons_cons _ (.cons _ (.cons_cons _ (.cons_cons _
          (.cons _ (.cons_cons _ .slnil)))))))
    · apply hdenied _ _ (fun hs => hv (verdict.state_eq_approved_iff.1 hs)) h
      simpa [Observation.Neutral, or_imp, forall_and] using hpast

end ApprovalRequest

namespace RequestTrace

theorem failureResult_consistent (t : RequestTrace) (error : GatewayError) :
    (t.failureResult error).executed = true → (t.failureResult error).approved ≠ some false := by
  cases error <;> simp [failureResult, ExecutionResult.withheld, ExecutionResult.notExecuted]

theorem keepsGated_reject {t : RequestTrace} {past : List Observation}
    (ht : t.state.canTransition .rejected = true) (error : Option String)
    (h : Gated g window id request past) (hnone : ∀ c, .called (.execute c) ∉ past) :
    (t.reject error).KeepsGated g window id request past := by
  rw [reject_eq ht]
  have hend : (Program.note (.entered .rejected)
      ({ t with state := .rejected }.finish .rejected (.notExecuted (some false) error t.id)
        none)).EndsWith (· = .notExecuted (some false) error t.id) := rfl
  refine hend.keepsGated h fun result hr => ⟨.inl hnone, ?_⟩
  rw [hr]
  simp [ExecutionResult.notExecuted]

theorem keepsGated_fail (t : RequestTrace) (error : GatewayError) :
    (t.fail error).KeepsGated g window id request [] := by
  have hend : (t.fail error).EndsWith (· = t.failureResult error) := rfl
  refine hend.keepsGated .nil fun result hr => ⟨.inl (by simp), ?_⟩
  rw [hr]
  exact t.failureResult_consistent error

end RequestTrace

namespace Gateway

theorem afterQuery_endsWith (g : Gateway) (t : RequestTrace)
    (answer : Except CallFailure QueryOutput) :
    (g.afterQuery t answer).EndsWith fun result =>
      result.executed = true → result.approved ≠ some false := by
  unfold afterQuery
  split
  · exact t.failureResult_consistent _
  · simp only
    split
    · exact RequestTrace.failureResult_consistent _ _
    · split
      · exact RequestTrace.failureResult_consistent _ _
      · simp [Program.EndsWith, RequestTrace.finish, Program.record, ExecutionResult.read]

theorem afterExecute_endsWith {t : RequestTrace} (s : ApprovalSession) (hg : t.granted = true)
    (ht : t.statement = some .write) (answer : Except CallFailure Nat) :
    (afterExecute t s answer).EndsWith fun result => result.approved = some true := by
  simp only [afterExecute]
  split
  · rfl
  · simp [Program.EndsWith, Program.record, RequestTrace.fail, RequestTrace.finish,
      RequestTrace.failureResult, ExecutionResult.notExecuted, RequestTrace.approved, hg, ht]

theorem keepsGated_read (g : Gateway) {t : RequestTrace} (ht : t.state = .received)
    (hread : classify t.request.sql = .ok .read ∧ t.request.writeIntent = false) :
    (g.read t).KeepsGated g window t.id t.request [] := by
  rw [g.read_eq ht]
  refine Program.keepsGated_note .nil fun h => ?_
  refine Program.keepsGated_wait h (h.concat_query hread) fun answer elapsed _ h => ?_
  refine (afterQuery_endsWith g _ answer).keepsGated h fun result hr => ⟨.inl (by simp), hr⟩

theorem keepsGated_write (g : Gateway) {t : RequestTrace} {found : StatementClass}
    {context : ApprovalContext} (ht : t.state = .received) (hs : t.statement = some .write)
    (hfound : classify t.request.sql = .ok found)
    (hwrite : found = .write ∨ t.request.writeIntent = true)
    (hwritable : g.databases.get? t.request.databaseId = some false)
    (hcontext : t.request.approvalContext = some context) :
    (write t false).KeepsGated g window t.id t.request [] := by
  rw [write_eq ht hcontext]
  refine Program.keepsGated_note .nil fun h => ?_
  refine ApprovalRequest.keepsGated_reviewed _ _ h (by simp [Observation.Neutral]) ?_ ?_
  · intro session past hs h hpast
    rw [if_neg (by simpa [ApprovalSession.isApproved] using hs)]
    exact RequestTrace.keepsGated_reject rfl _ h fun c hmem => hpast _ hmem
  · intro session past hstate h hpast happroved
    rw [if_pos (by simp [ApprovalSession.isApproved, hstate]), execute_eq rfl hstate]
    refine Program.keepsGated_wait h (h.concat_execute (fun c hmem => hpast _ hmem)
      (fun result hmem => hpast _ hmem) ?_) fun answer elapsed _ h => ?_
    · exact ⟨⟨found, hfound, hwrite⟩, hwritable, rfl, context, hcontext, happroved _⟩
    · refine Program.EndsWith.keepsGated
        (afterExecute_endsWith session (by rfl) (by exact hs) answer) h fun result hr => ?_
      exact ⟨.inr hr, by simp [hr]⟩

/-- Every history that the handling of a request allows is gated. -/
theorem keepsGated_handle (g : Gateway) (id : String) (request : ExecuteRequest) :
    (g.handle id request).KeepsGated g window id request [] := by
  rcases g.handle_cases id request with ⟨t, error, h⟩ | ⟨t, error, ht, h⟩ |
    ⟨hclass, hintent, h⟩ | ⟨found, context, hfound, hwrite, hdatabase, hcontext, h⟩
  · rw [h]
    exact RequestTrace.keepsGated_fail t error
  · rw [h]
    exact RequestTrace.keepsGated_reject (by rw [ht]; rfl) error .nil (by simp)
  · rw [h]
    exact keepsGated_read g (t := { RequestTrace.received id request with
      statement := some .read }) rfl ⟨hclass, hintent⟩
  · rw [h]
    exact keepsGated_write g (t := { RequestTrace.received id request with
      statement := some .write }) rfl rfl hfound hwrite hdatabase hcontext

end Gateway

/-- In any traffic the history of every request is gated. -/
theorem approval_gates_execution {Connection : Type} {g : OpenGateway Connection}
    {actions : List Action} {i : Nat} {f : Flight}
    (hf : (Traffic.after g actions).flights[i]? = some f) :
    Gated g g.approvalTimeout f.id f.request ((Traffic.after g actions).history i) :=
  Gateway.keepsGated_handle g f.id f.request _ (Traffic.history_allowed hf)

/-- A request that arrives as a write of a database that may be written. -/
def Flight.ofWrite (id : String) (request : ExecuteRequest) : Flight :=
  ⟨id, request, .running
    (Gateway.write { RequestTrace.received id request with statement := some .write } false)⟩

theorem Traffic.act_submit_of_write {Connection : Type} {g : OpenGateway Connection}
    {request : ExecuteRequest} {found : StatementClass} (h : classify request.sql = .ok found)
    (hwrite : found = .write ∨ request.writeIntent = true)
    (hdatabase : g.gateway.databases.get? request.databaseId = some false) (t : Traffic) :
    t.act g (.submit request) =
      { t with
        nextRequest := t.nextRequest + 1
        flights := t.flights ++ [.ofWrite (requestId t.nextRequest.toNat) request] } := by
  rw [Traffic.act, g.gateway.handle_of_write _ h hwrite hdatabase]
  rfl

/-- One database that may be written, and five milliseconds for a decision. -/
def deletionGateway : OpenGateway Unit := ⟨KeyMap.ofList [("main", ⟨(), false⟩)], .empty, 5⟩

def deletion : ExecuteRequest :=
  ⟨"DELETE FROM t", KeyMap.empty, "main", false, some ⟨"cleanup", KeyMap.empty⟩, none⟩

def deletionApproval : ApprovalRequest :=
  ⟨"req-1", "main", "DELETE FROM t", [], ⟨"cleanup", KeyMap.empty⟩⟩

/-- What happens to the deletion up to its execution. -/
def approvedMoves : List Action :=
  [.proceed, .proceed, .proceed, .answer (.surface deletionApproval) (.ok ()), .proceed, .proceed,
    .answer (.decision "req-1") (.decided .approved), .proceed, .proceed].map (.move 0)

/-- The deletion is executed, so the theorem is about more than refusals. -/
theorem approval_gates_deletion :
    ∃ f call, (Traffic.after deletionGateway (.submit deletion :: approvedMoves)).flights[0]? =
        some f ∧
      .called (.execute call) ∈
        (Traffic.after deletionGateway (.submit deletion :: approvedMoves)).history 0 ∧
      Gated deletionGateway 5 f.id f.request
        ((Traffic.after deletionGateway (.submit deletion :: approvedMoves)).history 0) := by
  have hclass : classify deletion.sql = .ok .write := by decide +kernel
  have hstart : Traffic.after deletionGateway (.submit deletion :: approvedMoves) =
      approvedMoves.foldl (Traffic.act deletionGateway)
        ⟨0, 2, [.ofWrite "req-1" deletion], []⟩ := by
    rw [Traffic.after, List.foldl_cons, Traffic.act_submit_of_write hclass (.inl rfl) (by decide)]
    rfl
  have hflight : ∃ f, (Traffic.after deletionGateway
      (.submit deletion :: approvedMoves)).flights[0]? = some f := by
    rw [hstart]
    exact ⟨_, rfl⟩
  have hcall : .called (.execute ⟨"main", "DELETE FROM t", KeyMap.empty⟩) ∈
      (Traffic.after deletionGateway (.submit deletion :: approvedMoves)).history 0 := by
    rw [hstart]
    exact List.mem_of_getElem? (i := 8) rfl
  obtain ⟨f, hf⟩ := hflight
  exact ⟨f, _, hf, hcall, approval_gates_execution hf⟩

end StatementGate
