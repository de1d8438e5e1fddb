import StatementGate.Proofs.Gateway.Gating

/-! # Parameter values

The values of parameters are sent to the databases and nowhere else. Two runs whose requests differ
only in these values, and whose operators and databases answer alike, surface the same requests with
the same prompts, record the same events and return the same results. -/

namespace StatementGate

variable {Connection : Type} {g : OpenGateway Connection} {call call' : DatabaseCall}

namespace ExecuteRequest

/-- The requests differ at most in the values of their parameters. -/
structure SameButValues (r r' : ExecuteRequest) : Prop where
  keys_eq : r'.parameters.keys = r.parameters.keys
  rest_eq : r' = { r with parameters := r'.parameters }

/-- What a request asks of its database. -/
def databaseCall (r : ExecuteRequest) : DatabaseCall := ⟨r.databaseId, r.sql, r.parameters⟩

end ExecuteRequest

/-- Programs that differ only in the call by which they ask their database. -/
inductive Program.Rebound (call call' : DatabaseCall) :
    Program ExecutionResult → Program ExecutionResult → Prop where
  | done (result : ExecutionResult) : Rebound call call' (.done result) (.done result)
  | note {p p' : Program ExecutionResult} (n : Note) :
    Rebound call call' p p' → Rebound call call' (.note n p) (.note n p')
  | query {next next' : Except CallFailure QueryOutput → Program ExecutionResult}
      (notes : List Note) : (∀ a, Rebound call call' (next a) (next' a)) →
    Rebound call call' (.wait (.query call) notes next) (.wait (.query call') notes next')
  | execute {next next' : Except CallFailure Nat → Program ExecutionResult}
      (notes : List Note) : (∀ a, Rebound call call' (next a) (next' a)) →
    Rebound call call' (.wait (.execute call) notes next) (.wait (.execute call') notes next')
  | surface {next next' : Except ApprovalError Unit → Program ExecutionResult}
      (request : ApprovalRequest) (notes : List Note) :
    (∀ a, Rebound call call' (next a) (next' a)) →
    Rebound call call' (.wait (.surface request) notes next) (.wait (.surface request) notes next')
  | decision {next next' : Verdict → Program ExecutionResult} (requestId : String)
      (notes : List Note) : (∀ a, Rebound call call' (next a) (next' a)) →
    Rebound call call' (.wait (.decision requestId) notes next)
      (.wait (.decision requestId) notes next')

/-- A program that asks nothing differs in nothing. -/
theorem Program.EndsWith.rebound {good : ExecutionResult → Prop} {p : Program ExecutionResult}
    (hp : p.EndsWith good) : p.Rebound call call' p := by
  induction p with
  | done result => exact .done result
  | note n next ih => exact .note n (ih hp)
  | wait => exact hp.elim

theorem ApprovalRequest.rebound_reviewed (r : ApprovalRequest) (notes : List Note)
    {go go' : ApprovalSession → Program ExecutionResult}
    (h : ∀ session, (go session).Rebound call call' (go' session)) :
    (r.reviewed notes go).Rebound call call' (r.reviewed notes go') := by
  refine .note _ (.surface r _ fun surfaced => ?_)
  cases surfaced with
  | error error => exact .note _ (h _)
  | ok => exact .note _ (.decision _ _ fun verdict => .note _ (h _))

namespace RequestTrace

/-- The trace of a request with other values of its parameters. -/
def rebind (t : RequestTrace) (parameters : Parameters) : RequestTrace :=
  { t with request := { t.request with parameters } }

variable {t : RequestTrace} {parameters : Parameters}
  (h : parameters.keys = t.request.parameters.keys)

include h

theorem event_rebind : (t.rebind parameters).event = t.event := by
  funext outcome approved errorKind
  simp only [event, rebind, ExecuteRequest.parameterNames, h]

theorem abandonment_rebind : (t.rebind parameters).abandonment = t.abandonment := by
  simp only [abandonment, event_rebind h]
  rfl

theorem approvalRequest_rebind :
    (t.rebind parameters).approvalRequest = t.approvalRequest := by
  funext context
  simp only [approvalRequest, rebind, ExecuteRequest.parameterNames, h]

theorem finish_rebind : (t.rebind parameters).finish = t.finish := by
  funext outcome result errorKind
  simp only [finish, event_rebind h]

theorem fail_rebind : (t.rebind parameters).fail = t.fail := by
  funext error
  simp only [fail, finish_rebind h]
  rfl

theorem rebound_fail (error : GatewayError) :
    (t.fail error).Rebound call call' ((t.rebind parameters).fail error) := by
  rw [fail_rebind h]
  exact .note _ (.done _)

theorem rebound_reject (ht : t.state.canTransition .rejected = true) (error : Option String) :
    (t.reject error).Rebound call call' ((t.rebind parameters).reject error) := by
  let rejected : RequestTrace := { t with state := .rejected }
  have hfinish : (rejected.rebind parameters).finish = rejected.finish :=
    finish_rebind (by exact h)
  have hreject : (t.rebind parameters).reject error = t.reject error := by
    rw [reject_eq (by exact ht), reject_eq ht]
    exact congrArg (Program.note _) (congrFun (congrFun (congrFun hfinish _) _) _)
  rw [hreject, reject_eq ht]
  exact .note _ (.note _ (.done _))

end RequestTrace

namespace Gateway

section Trace

variable {t : RequestTrace} {parameters : Parameters}
  (h : parameters.keys = t.request.parameters.keys)

include h

theorem afterQuery_rebind (g : Gateway) : g.afterQuery (t.rebind parameters) = g.afterQuery t := by
  funext answer
  cases answer with
  | error failure => exact congrFun (RequestTrace.fail_rebind h) _
  | ok output =>
    let returned : RequestTrace := { t with rowsReturned := some output.rows.length }
    have hfail : (returned.rebind parameters).fail = returned.fail := RequestTrace.fail_rebind h
    simp only [afterQuery]
    cases g.sanitizers.sanitize output with
    | error error => exact congrFun hfail _
    | ok rows =>
      dsimp only
      cases rows.mapM Row.encode with
      | error error => exact congrFun hfail _
      | ok rows =>
        let succeeded : RequestTrace := { returned with state := .succeeded }
        have hfinish : (succeeded.rebind parameters).finish = succeeded.finish :=
          RequestTrace.finish_rebind h
        exact congrArg (Program.note _) (congrFun (congrFun (congrFun hfinish _) _) _)

theorem afterExecute_rebind (session : ApprovalSession) :
    afterExecute (t.rebind parameters) session = afterExecute t session := by
  funext answer
  cases answer with
  | error failure =>
    exact congrArg (Program.record _) (congrFun (RequestTrace.fail_rebind h) _)
  | ok rowsAffected =>
    let succeeded : RequestTrace :=
      { t with rowsAffected := some rowsAffected, state := .succeeded }
    have hfinish : (succeeded.rebind parameters).finish = succeeded.finish :=
      RequestTrace.finish_rebind h
    exact congrArg (fun p => Program.record _ (Program.note _ p))
      (congrFun (congrFun (congrFun hfinish _) _) _)

theorem rebound_read (g : Gateway) (ht : t.state = .received) :
    (g.read t).Rebound t.call (t.rebind parameters).call (g.read (t.rebind parameters)) := by
  let reading : RequestTrace := { t with state := .readExecuting }
  have hafter : g.afterQuery (reading.rebind parameters) = g.afterQuery reading :=
    afterQuery_rebind h g
  have habandonment : (reading.rebind parameters).abandonment = reading.abandonment :=
    RequestTrace.abandonment_rebind h
  have hread : g.read (t.rebind parameters) = .note (.entered .readExecuting)
      (.wait (.query (t.rebind parameters).call) reading.abandonment (g.afterQuery reading)) := by
    rw [g.read_eq (by exact ht), ← habandonment, ← hafter]
    rfl
  rw [g.read_eq ht, hread]
  exact .note _ (.query _ fun answer => (g.afterQuery_endsWith _ answer).rebound)

theorem rebound_execute {session : ApprovalSession} (ht : t.state = .awaitingApproval)
    (hs : session.state = .approved) :
    (execute t session).Rebound t.call (t.rebind parameters).call
      (execute (t.rebind parameters) session) := by
  rw [execute_eq ht hs, execute_eq (by exact ht) hs, RequestTrace.abandonment_rebind h,
    afterExecute_rebind h]
  refine .execute _ fun answer => ?_
  have hend : (afterExecute t session answer).EndsWith fun _ => True := by
    cases answer <;> trivial
  exact hend.rebound

theorem rebound_write (readOnly : Bool) (ht : t.state = .received) :
    (write t readOnly).Rebound t.call (t.rebind parameters).call
      (write (t.rebind parameters) readOnly) := by
  cases hcontext : t.request.approvalContext with
  | none =>
    rw [write_of_no_context hcontext, write_of_no_context (by exact hcontext)]
    exact RequestTrace.rebound_reject h (by rw [ht]; rfl) _
  | some context =>
    cases readOnly with
    | true =>
      rw [write_of_readOnly hcontext, write_of_readOnly (by exact hcontext)]
      exact RequestTrace.rebound_fail h _
    | false =>
      let awaiting : RequestTrace := { t with state := .awaitingApproval }
      have habandonment : (awaiting.rebind parameters).abandonment = awaiting.abandonment :=
        RequestTrace.abandonment_rebind h
      have hrequest : (awaiting.rebind parameters).approvalRequest = awaiting.approvalRequest :=
        RequestTrace.approvalRequest_rebind h
      rw [write_eq ht hcontext, write_eq (by exact ht) (by exact hcontext)]
      refine .note _ ?_
      change Program.Rebound _ _ _ (((awaiting.rebind parameters).approvalRequest context).reviewed
        (awaiting.rebind parameters).abandonment fun session =>
          if session.isApproved then
            execute ({ awaiting with granted := true }.rebind parameters) session
          else (awaiting.rebind parameters).reject session.denial)
      rw [habandonment, hrequest]
      refine ApprovalRequest.rebound_reviewed _ _ fun session => ?_
      by_cases hsession : session.isApproved = true
      · let approved : RequestTrace := { awaiting with granted := true }
        have hexecute : (execute approved session).Rebound approved.call
            (approved.rebind parameters).call (execute (approved.rebind parameters) session) :=
          rebound_execute (by exact h) (by rfl) (eq_of_beq hsession)
        rw [if_pos hsession, if_pos hsession]
        exact hexecute
      · have hreject : (awaiting.reject session.denial).Rebound t.call (t.rebind parameters).call
            ((awaiting.rebind parameters).reject session.denial) :=
          RequestTrace.rebound_reject (by exact h) (by rfl) _
        rw [if_neg hsession, if_neg hsession]
        exact hreject

end Trace

/-- The handling of a request depends on the values of its parameters only in what it asks of the
database. -/
theorem rebound_handle (g : Gateway) (id : String) {request request' : ExecuteRequest}
    (h : request.SameButValues request') :
    (g.handle id request).Rebound request.databaseCall request'.databaseCall
      (g.handle id request') := by
  obtain ⟨hkeys, hrest⟩ := h
  have hhandle : g.handle id request' =
      g.handle id { request with parameters := request'.parameters } := congrArg _ hrest
  have hcall : request'.databaseCall =
      (RequestTrace.received id request |>.rebind request'.parameters).call :=
    congrArg ExecuteRequest.databaseCall hrest
  rw [hhandle, hcall]
  clear hhandle hcall hrest
  generalize request'.parameters = parameters at hkeys
  let received : RequestTrace := .received id request
  cases hfound : classify request.sql with
  | error error =>
    rw [g.handle_of_error id hfound, g.handle_of_error id (by exact hfound)]
    exact RequestTrace.rebound_fail (t := received) hkeys _
  | ok found =>
    cases hdatabase : g.databases.get? request.databaseId with
    | none =>
      let unknown : RequestTrace :=
        { received with statement := some (if request.writeIntent then .write else found) }
      rw [g.handle_of_unknown id hfound hdatabase,
        g.handle_of_unknown id (by exact hfound) (by exact hdatabase)]
      exact RequestTrace.rebound_fail (t := unknown) hkeys _
    | some readOnly =>
      by_cases hwrite : found = .write ∨ request.writeIntent = true
      · let written : RequestTrace := { received with statement := some .write }
        have hrebound : (write written readOnly).Rebound written.call
            (written.rebind parameters).call (write (written.rebind parameters) readOnly) :=
          rebound_write (by exact hkeys) readOnly (by rfl)
        rw [g.handle_of_write id hfound hwrite hdatabase,
          g.handle_of_write id (by exact hfound) (by exact hwrite) (by exact hdatabase)]
        exact hrebound
      · obtain ⟨hclass, hintent⟩ := not_or.1 hwrite
        have hintent : request.writeIntent = false := by simpa using hintent
        cases found with
        | write => exact absurd rfl hclass
        | read =>
          let reading : RequestTrace := { received with statement := some .read }
          have hrebound : (g.read reading).Rebound reading.call
              (reading.rebind parameters).call (g.read (reading.rebind parameters)) :=
            rebound_read (by exact hkeys) g (by rfl)
          rw [g.handle_of_read id hfound hintent hdatabase,
            g.handle_of_read id (by exact hfound) (by exact hintent) (by exact hdatabase)]
          exact hrebound

end Gateway

/-- What leaves a gateway other than its calls of the databases. -/
inductive Outflow where
  | recorded (event : AuditEvent)
  | surfaced (request : ApprovalRequest) (prompt : String)
  | returned (result : ExecutionResult)
  deriving DecidableEq

def Observation.outflow? : Observation → Option Outflow
  | .noted (.recorded event) => some (.recorded event)
  | .called (.surface request) => some (.surfaced request request.prompt)
  | .returned result => some (.returned result)
  | _ => none

/-- The outflow of all requests in the order it came. -/
def Traffic.outflow (t : Traffic) : List (Nat × Outflow) :=
  t.log.filterMap fun (i, seen) => seen.outflow?.map fun o => (i, o)

/-- The same happens to two requests: the operators do the same, and the databases give the same
answer, each to the call of its own request. -/
inductive Move.Rebound (call call' : DatabaseCall) : Move → Move → Prop where
  | proceed : Rebound call call' .proceed .proceed
  | abandon : Rebound call call' .abandon .abandon
  | query (answer : Except CallFailure QueryOutput) :
    Rebound call call' (.answer (.query call) answer) (.answer (.query call') answer)
  | execute (answer : Except CallFailure Nat) :
    Rebound call call' (.answer (.execute call) answer) (.answer (.execute call') answer)
  | surface (request : ApprovalRequest) (answer : Except ApprovalError Unit) :
    Rebound call call' (.answer (.surface request) answer) (.answer (.surface request) answer)
  | decision (requestId : String) (verdict : Verdict) :
    Rebound call call' (.answer (.decision requestId) verdict) (.answer (.decision requestId) verdict)

/-- Two runs of which the first has so far had the one requests and the second the others. From then
on the requests that arrive differ at most in the values of their parameters, and the same happens
to them. -/
inductive Rebinds : List ExecuteRequest → List ExecuteRequest → List Action → List Action → Prop where
  | nil (requests requests' : List ExecuteRequest) : Rebinds requests requests' [] []
  | tick {requests requests' : List ExecuteRequest} {actions actions' : List Action} :
    Rebinds requests requests' actions actions' →
    Rebinds requests requests' (.tick :: actions) (.tick :: actions')
  | submit {requests requests' : List ExecuteRequest} {actions actions' : List Action}
      {request request' : ExecuteRequest} : request.SameButValues request' →
    Rebinds (requests ++ [request]) (requests' ++ [request']) actions actions' →
    Rebinds requests requests' (.submit request :: actions) (.submit request' :: actions')
  | move {requests requests' : List ExecuteRequest} {actions actions' : List Action} (i : Nat)
      {m m' : Move} :
    (∀ r r', requests[i]? = some r → requests'[i]? = some r' →
      m.Rebound r.databaseCall r'.databaseCall m') →
    Rebinds requests requests' actions actions' →
    Rebinds requests requests' (.move i m :: actions) (.move i m' :: actions')

namespace Phase

/-- Requests that stand at the same point. -/
inductive Rebound (call call' : DatabaseCall) : Phase → Phase → Prop where
  | running {p p' : Program ExecutionResult} : p.Rebound call call' p' →
    Rebound call call' (.running p) (.running p')
  | waiting (since : Nat) {w w' : Wait} {notes notes' : List Note}
      {next : w.Answer → Program ExecutionResult} {next' : w'.Answer → Program ExecutionResult} :
    (Program.wait w notes next).Rebound call call' (.wait w' notes' next') →
    Rebound call call' (.waiting since w notes next) (.waiting since w' notes' next')
  | ended : Rebound call call' .ended .ended

/-- Both steps are refused, or they let the same out and lead to the same point. -/
inductive StepsAlike (call call' : DatabaseCall) :
    Option (List Observation × Phase) → Option (List Observation × Phase) → Prop where
  | refused : StepsAlike call call' none none
  | taken {seen seen' : List Observation} {phase phase' : Phase} :
    seen.map Observation.outflow? = seen'.map Observation.outflow? →
    phase.Rebound call call' phase' →
    StepsAlike call call' (some (seen, phase)) (some (seen', phase'))

theorem step_answer (window now since : Nat) {w : Wait} (notes : List Note)
    (next : w.Answer → Program ExecutionResult) (answer : w.Answer) :
    (waiting since w notes next).step window now (.answer w answer) =
      if w.admits window (now - since) answer then
        some ([.answered w answer (now - since)], .running (next answer))
      else none := by
  simp only [step, dif_pos]

theorem step_answer_ne (window now since : Nat) {w w' : Wait} (hne : w' ≠ w) (notes : List Note)
    (next : w.Answer → Program ExecutionResult) (answer : w'.Answer) :
    (waiting since w notes next).step window now (.answer w' answer) = none := by
  simp only [step, dif_neg hne]

/-- The answer to another wait is refused in both runs. -/
theorem StepsAlike.other {window now since : Nat} {w w' v v' : Wait} {notes : List Note}
    {next : w.Answer → Program ExecutionResult} {next' : w'.Answer → Program ExecutionResult}
    {answer : v.Answer} {answer' : v'.Answer} (hne : v ≠ w) (hne' : v' ≠ w') :
    StepsAlike call call' ((waiting since w notes next).step window now (.answer v answer))
      ((waiting since w' notes next').step window now (.answer v' answer')) := by
  rw [step_answer_ne window now since hne, step_answer_ne window now since hne']
  exact .refused

theorem Rebound.step {phase phase' : Phase} (h : phase.Rebound call call' phase') {m m' : Move}
    (hm : m.Rebound call call' m') (window now : Nat) :
    StepsAlike call call' (phase.step window now m) (phase'.step window now m') := by
  cases h with
  | running hp =>
    cases hp with
    | done result =>
      cases hm with
      | proceed => exact .taken rfl .ended
      | _ => exact .refused
    | note n hp =>
      cases hm with
      | proceed => exact .taken rfl (.running hp)
      | _ => exact .refused
    | query notes hnext =>
      cases hm with
      | proceed => exact .taken rfl (.waiting now (.query notes hnext))
      | _ => exact .refused
    | execute notes hnext =>
      cases hm with
      | proceed => exact .taken rfl (.waiting now (.execute notes hnext))
      | _ => exact .refused
    | surface request notes hnext =>
      cases hm with
      | proceed => exact .taken rfl (.waiting now (.surface request notes hnext))
      | _ => exact .refused
    | decision requestId notes hnext =>
      cases hm with
      | proceed => exact .taken rfl (.waiting now (.decision requestId notes hnext))
      | _ => exact .refused
  | waiting since hp =>
    cases hp with
    | query notes hnext =>
      cases hm with
      | proceed => exact .refused
      | abandon => exact .taken rfl .ended
      | query answer =>
        rw [step_answer, step_answer]
        exact .taken rfl (.running (hnext answer))
      | _ => exact .other nofun nofun
    | execute notes hnext =>
      cases hm with
      | proceed => exact .refused
      | abandon => exact .taken rfl .ended
      | execute answer =>
        rw [step_answer, step_answer]
        exact .taken rfl (.running (hnext answer))
      | _ => exact .other nofun nofun
    | surface request notes hnext =>
      cases hm with
      | proceed => exact .refused
      | abandon => exact .taken rfl .ended
      | surface other answer =>
        by_cases hother : other = request
        · subst hother
          rw [step_answer, step_answer]
          exact .taken rfl (.running (hnext answer))
        · exact .other (by simpa using hother) (by simpa using hother)
      | _ => exact .other nofun nofun
    | decision requestId notes hnext =>
      cases hm with
      | proceed => exact .refused
      | abandon => exact .taken rfl .ended
      | decision other verdict =>
        by_cases hother : other = requestId
        · subst hother
          rw [step_answer, step_answer]
          split
          · exact .taken rfl (.running (hnext verdict))
          · exact .refused
        · exact .other (by simpa using hother) (by simpa using hother)
      | _ => exact .other nofun nofun
  | ended => cases hm <;> exact .refused

end Phase

namespace Traffic

def requests (t : Traffic) : List ExecuteRequest := t.flights.map Flight.request

/-- Two runs so far: the same requests, up to the values of their parameters, stand at the same
points, and the same has been let out. -/
structure Rebound (t t' : Traffic) : Prop where
  now_eq : t.now = t'.now
  nextRequest_eq : t.nextRequest = t'.nextRequest
  flights : List.Forall₂ (fun f f' => f.phase.Rebound f.request.databaseCall
    f'.request.databaseCall f'.phase) t.flights t'.flights
  outflow_eq : t.outflow = t'.outflow

theorem outflow_append (t : Traffic) (i : Nat) (seen : List Observation) (flights : List Flight) :
    { t with flights, log := t.log ++ seen.map fun o => (i, o) }.outflow =
      t.outflow ++ (seen.map Observation.outflow?).filterMap (Option.map (i, ·)) :=
  filterMap_append_entries _ _ _ _

theorem requests_submit (t : Traffic) (request : ExecuteRequest) :
    (t.act g (.submit request)).requests = t.requests ++ [request] := by
  simp [requests, Traffic.act]

theorem requests_move (t : Traffic) (i : Nat) (m : Move) :
    (t.act g (.move i m)).requests = t.requests := by
  rcases act_move g t i m with hact | ⟨f, seen, phase, hf, _, hact⟩
  · rw [hact]
  · have hrequest : t.requests[i]? = some f.request := by simp [requests, hf]
    obtain ⟨hi, hget⟩ := List.getElem?_eq_some_iff.1 hrequest
    rw [hact, requests, List.map_set]
    dsimp only
    rw [← hget]
    exact List.set_getElem_self hi

theorem Rebound.move {t t' : Traffic} (h : t.Rebound t') (i : Nat) {m m' : Move}
    (hm : ∀ r r', t.requests[i]? = some r → t'.requests[i]? = some r' →
      m.Rebound r.databaseCall r'.databaseCall m') :
    (t.act g (.move i m)).Rebound (t'.act g (.move i m')) := by
  obtain ⟨hnow, hnext, hflights, houtflow⟩ := h
  simp only [Traffic.act]
  rcases forall₂_at hflights i with ⟨hf, hf'⟩ | ⟨f, f', hf, hf', hphase, hset⟩
  · rw [hf, hf']
    exact ⟨hnow, hnext, hflights, houtflow⟩
  · rw [hf, hf', hnow]
    have hm := hm f.request f'.request (by simp [requests, hf]) (by simp [requests, hf'])
    have hsteps := hphase.step hm g.approvalTimeout t'.now
    dsimp only
    generalize f.phase.step g.approvalTimeout t'.now m = step,
      f'.phase.step g.approvalTimeout t'.now m' = step' at hsteps
    cases hsteps with
    | refused => exact ⟨hnow, hnext, hflights, houtflow⟩
    | @taken seen seen' _ _ hseen hphase' =>
      refine ⟨rfl, hnext, hset _ _ hphase', ?_⟩
      have hlog : t.outflow ++ (seen.map Observation.outflow?).filterMap (Option.map (i, ·)) =
          t'.outflow ++ (seen'.map Observation.outflow?).filterMap (Option.map (i, ·)) := by
        rw [houtflow, hseen]
      exact ((outflow_append t i seen t.flights).trans hlog).trans
        (outflow_append t' i seen' t'.flights).symm

/-- Runs that are in step stay so. -/
theorem Rebound.of_rebinds {t t' : Traffic} (h : t.Rebound t') {actions actions' : List Action}
    (hactions : Rebinds t.requests t'.requests actions actions') :
    (actions.foldl (act g) t).Rebound (actions'.foldl (act g) t') := by
  generalize hr : t.requests = rs, hr' : t'.requests = rs' at hactions
  induction hactions generalizing t t' with
  | nil => exact h
  | tick _ ih =>
    obtain ⟨hnow, hnext, hflights, houtflow⟩ := h
    exact ih ⟨congrArg (· + 1) hnow, hnext, hflights, houtflow⟩ hr hr'
  | @submit _ _ _ _ request request' hsame _ ih =>
    obtain ⟨hnow, hnext, hflights, houtflow⟩ := h
    subst hr hr'
    refine ih ⟨hnow, congrArg (· + 1) hnext, ?_, houtflow⟩ (requests_submit t request)
      (requests_submit t' request')
    refine List.rel_append hflights (.cons ?_ .nil)
    rw [← hnext]
    exact .running (g.gateway.rebound_handle _ hsame)
  | move i hm _ ih =>
    subst hr hr'
    exact ih (h.move i hm) (requests_move t i _) (requests_move t' i _)

end Traffic

/-- Runs of a gateway whose requests differ only in the values of their parameters, and in which the
operators do the same and the databases give the same answers, let out the same events, the same
approval requests with the same prompts, and the same results. -/
theorem outflow_independent_of_values {actions actions' : List Action}
    (h : Rebinds [] [] actions actions') :
    (Traffic.after g actions).outflow = (Traffic.after g actions').outflow := by
  have hstart : Traffic.start.Rebound Traffic.start := ⟨rfl, rfl, .nil, rfl⟩
  exact (hstart.of_rebinds h).outflow_eq

/-- The deletion of the rows with the given secret. -/
def purge (secret : String) : ExecuteRequest :=
  ⟨"DELETE FROM t WHERE secret = :p", KeyMap.ofList [("p", .text secret)], "main", false,
    some ⟨"cleanup", KeyMap.empty⟩, none⟩

def purgeApproval : ApprovalRequest :=
  ⟨"req-1", "main", "DELETE FROM t WHERE secret = :p", ["p"], ⟨"cleanup", KeyMap.empty⟩⟩

/-- What happens to the deletion, from its arrival to its result. -/
def purgeMoves (secret : String) : List Action :=
  [.proceed, .proceed, .proceed, .answer (.surface purgeApproval) (.ok ()), .proceed, .proceed,
    .answer (.decision "req-1") (.decided .approved), .proceed, .proceed,
    .answer (.execute (purge secret).databaseCall) (.ok 3), .proceed, .proceed, .proceed,
    .proceed].map (.move 0)

/-- The traffic of one deletion, its statement classified. -/
theorem after_purge (secret : String) (moves : List Action) :
    Traffic.after deletionGateway (.submit (purge secret) :: moves) =
      moves.foldl (Traffic.act deletionGateway)
        ⟨0, 2, [.ofWrite "req-1" (purge secret)], []⟩ := by
  have hclass : classify (purge secret).sql = .ok .write := by
    have h : classify "DELETE FROM t WHERE secret = :p" = .ok .write := by decide +kernel
    exact h
  have hmain : deletionGateway.gateway.databases.get? "main" = some false := by decide
  rw [Traffic.after, List.foldl_cons, Traffic.act_submit_of_write hclass (.inl rfl) hmain]
  rfl

/-- The traffic of one deletion. -/
def purged (secret : String) : Traffic :=
  Traffic.after deletionGateway (.submit (purge secret) :: purgeMoves secret)

theorem purge_rebinds (secret secret' : String) :
    Rebinds [] [] (.submit (purge secret) :: purgeMoves secret)
      (.submit (purge secret') :: purgeMoves secret') := by
  have hsame : (purge secret).SameButValues (purge secret') := ⟨rfl, rfl⟩
  refine .submit hsame ?_
  have hpurge : ∀ {secret : String} {r : ExecuteRequest}, [purge secret][0]? = some r →
      r = purge secret := by
    intro secret r h
    simpa using h.symm
  have hmove : ∀ {m m' : Move} {rest rest' : List Action},
      m.Rebound (purge secret).databaseCall (purge secret').databaseCall m' →
      Rebinds [purge secret] [purge secret'] rest rest' →
      Rebinds [purge secret] [purge secret'] (.move 0 m :: rest) (.move 0 m' :: rest') := by
    refine fun hm hrest => .move 0 (fun r r' hr hr' => ?_) hrest
    rwa [hpurge hr, hpurge hr']
  refine hmove .proceed (hmove .proceed (hmove .proceed (hmove (.surface _ _) (hmove .proceed
    (hmove .proceed (hmove (.decision _ _) (hmove .proceed (hmove .proceed (hmove (.execute _)
      (hmove .proceed (hmove .proceed (hmove .proceed (hmove .proceed (.nil _ _))))))))))))))

/-- Two deletions with different secrets are approved and executed, each with its own, and what is let
out of them is the same. -/
theorem purge_outflow_independent :
    (0, .called (.execute (purge "amber").databaseCall)) ∈ (purged "amber").log ∧
      (0, .called (.execute (purge "cobalt").databaseCall)) ∈ (purged "cobalt").log ∧
      (purge "amber").databaseCall ≠ (purge "cobalt").databaseCall ∧
      (0, .returned (.written 3 "req-1")) ∈ (purged "amber").outflow ∧
      (purged "amber").outflow = (purged "cobalt").outflow := by
  refine ⟨?_, ?_, by decide, ?_, outflow_independent_of_values (purge_rebinds _ _)⟩
  · rw [purged, after_purge]
    exact List.mem_of_getElem? (i := 8) rfl
  · rw [purged, after_purge]
    exact List.mem_of_getElem? (i := 8) rfl
  · rw [purged, after_purge]
    exact List.mem_of_getElem? (i := 6) rfl

end StatementGate
