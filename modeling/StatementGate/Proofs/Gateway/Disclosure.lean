import Mathlib.Control.Monad.Basic
import StatementGate.Proofs.Gateway.Course
import StatementGate.Proofs.Gateway.History
import StatementGate.Proofs.Sanitization.Masking

/-! # Disclosure

What leaves the gateway: results and audit events. Two runs of the same traffic whose databases
answer with alike outputs disclose the same, so nothing can be learnt of what the masks hide. -/

namespace StatementGate

variable {α β : Type} {g : Gateway} {r : SanitizerRegistry} {window : Nat}

/-- Answers between which the gateway must not show a difference. -/
def Wait.Alike (r : SanitizerRegistry) : (w : Wait) → w.Answer → w.Answer → Prop
  | .query _, .ok o, .ok o' => o.Alike r o'
  | _, a, a' => a = a'

theorem Wait.Alike.admits_iff {w : Wait} {a a' : w.Answer} (h : w.Alike r a a') (elapsed : Nat) :
    w.admits window elapsed a ↔ w.admits window elapsed a' := by
  cases w with
  | query call => exact Iff.rfl
  | execute call => exact Iff.rfl
  | surface request => exact Iff.rfl
  | decision requestId =>
    cases h
    exact Iff.rfl

/-- A program that goes on the same way after alike answers. -/
def Program.Blind (r : SanitizerRegistry) : Program α → Prop
  | .done _ => True
  | .note _ next => next.Blind r
  | .wait w _ next => (∀ a, (next a).Blind r) ∧ ∀ a a', w.Alike r a a' → next a = next a'

namespace Program.Blind

theorem bind {p : Program α} {f : α → Program β} (hp : p.Blind r) (hf : ∀ a, (f a).Blind r) :
    (p >>= f).Blind r := by
  induction p with
  | done result => exact hf result
  | note n next ih => exact ih hp
  | wait w notes next ih =>
    exact ⟨fun a => ih a (hp.1 a), fun a a' h => congrArg (Program.bind · f) (hp.2 a a' h)⟩

theorem onAbandon {p : Program α} (hp : p.Blind r) (notes : List Note) :
    (p.onAbandon notes).Blind r := by
  induction p with
  | done result => trivial
  | note n next ih => exact ih hp
  | wait w _ next ih =>
    exact ⟨fun a => ih a (hp.1 a), fun a a' h => congrArg (Program.onAbandon · notes) (hp.2 a a' h)⟩

theorem note {n : Note} {p : Program α} (hp : p.Blind r) : (Program.note n p).Blind r := hp

theorem surface {request : ApprovalRequest} {notes : List Note}
    {next : Except ApprovalError Unit → Program α} (h : ∀ a, (next a).Blind r) :
    (Program.wait (.surface request) notes next).Blind r :=
  ⟨h, fun _ _ => congrArg next⟩

theorem decision {requestId : String} {notes : List Note} {next : Verdict → Program α}
    (h : ∀ a, (next a).Blind r) : (Program.wait (.decision requestId) notes next).Blind r :=
  ⟨h, fun _ _ => congrArg next⟩

theorem execute {call : DatabaseCall} {notes : List Note}
    {next : Except CallFailure Nat → Program α} (h : ∀ a, (next a).Blind r) :
    (Program.wait (.execute call) notes next).Blind r :=
  ⟨h, fun _ _ => congrArg next⟩

end Program.Blind

namespace RequestTrace

theorem blind_fail (t : RequestTrace) (error : GatewayError) : (t.fail error).Blind r := trivial

theorem blind_enter (t : RequestTrace) (next : RequestState)
    {go : RequestTrace → Program ExecutionResult} (h : ∀ t, (go t).Blind r) :
    (t.enter next go).Blind r := by
  simp only [enter]
  split
  · exact h _
  · exact t.blind_fail _

theorem blind_reject (t : RequestTrace) (error : Option String) : (t.reject error).Blind r :=
  t.blind_enter _ fun _ => trivial

end RequestTrace

theorem ApprovalSession.blind_enter (s : ApprovalSession) (next : ApprovalState)
    (detail : Option String) : (s.enter next detail).Blind r := by
  simp only [enter]
  split <;> trivial

theorem ApprovalRequest.blind_review (request : ApprovalRequest) : request.review.Blind r := by
  simp only [review, Program.record]
  refine .note (.surface fun answer => ?_)
  cases answer with
  | error e => exact ApprovalSession.blind_enter _ _ _
  | ok =>
    refine (ApprovalSession.blind_enter _ _ _).bind fun entered => ?_
    cases entered with
    | error e => trivial
    | ok session => exact Program.Blind.decision fun verdict => ApprovalSession.blind_enter _ _ _

namespace Gateway

theorem blind_read (t : RequestTrace) (h : t.state = .received) :
    (g.read t).Blind g.sanitizers := by
  rw [g.read_eq h]
  refine ⟨fun answer => ?_, fun answer answer' halike => ?_⟩
  · cases answer with
    | error failure => exact RequestTrace.blind_fail _ _
    | ok output =>
      dsimp only [afterQuery]
      split
      · exact RequestTrace.blind_fail _ _
      · split
        · exact RequestTrace.blind_fail _ _
        · trivial
  · cases answer with
    | error failure =>
      cases halike
      rfl
    | ok output =>
      cases answer' with
      | error failure => cases halike
      | ok output' =>
        have hlength : output.rows.length = output'.rows.length := halike.rows.length_eq
        simp only [afterQuery]
        simp only [hlength, SanitizerRegistry.sanitize_eq halike]

theorem blind_execute (t : RequestTrace) (session : ApprovalSession) :
    (execute t session).Blind r := by
  simp only [execute]
  refine .execute fun answer => ?_
  cases answer with
  | ok rowsAffected =>
    refine (session.blind_enter _ _).bind fun entered => ?_
    cases entered with
    | error e => exact t.blind_fail _
    | ok _ => exact RequestTrace.blind_enter _ _ fun _ => trivial
  | error failure =>
    refine (session.blind_enter _ _).bind fun entered => ?_
    cases entered with
    | error e => exact t.blind_fail _
    | ok _ => exact t.blind_fail _

theorem blind_write (t : RequestTrace) (readOnly : Bool) : (write t readOnly).Blind r := by
  simp only [write]
  split
  · exact t.blind_reject _
  · split
    · exact t.blind_fail _
    · refine t.blind_enter _ fun t => ?_
      refine ((ApprovalRequest.blind_review _).onAbandon _).bind fun reviewed => ?_
      cases reviewed with
      | error e => exact t.blind_fail _
      | ok session =>
        dsimp only
        split
        · exact blind_execute _ _
        · exact t.blind_reject _

/-- The handling of a request shows nothing of what the policies hide. -/
theorem blind_handle (g : Gateway) (id : String) (request : ExecuteRequest) :
    (g.handle id request).Blind g.sanitizers := by
  rcases g.handle_routes id request with ⟨_, _, h⟩ | ⟨_, _, h⟩ | ⟨_, readOnly, _, _, _, h⟩ |
    ⟨_, _, h⟩
  · rw [h]
    exact RequestTrace.blind_fail _ _
  · rw [h]
    exact RequestTrace.blind_fail _ _
  · rw [h]
    exact blind_write _ readOnly
  · rw [h]
    exact blind_read _ rfl

end Gateway

/-- The trace of a request that declares another entity type. -/
def RequestTrace.declaring (t : RequestTrace) (entityType : Option String) : RequestTrace :=
  { t with request := { t.request with entityType } }

namespace Gateway

theorem read_declaring {t : RequestTrace} (h : t.state = .received) (entityType : Option String) :
    g.read (t.declaring entityType) = g.read t := by
  rw [g.read_eq h, g.read_eq (t := t.declaring entityType) h]
  rfl

theorem execute_declaring {t : RequestTrace} {s : ApprovalSession}
    (ht : t.state = .awaitingApproval) (hs : s.state = .approved) (entityType : Option String) :
    execute (t.declaring entityType) s = execute t s := by
  rw [execute_eq ht hs, execute_eq (t := t.declaring entityType) ht hs]
  rfl

theorem write_declaring {t : RequestTrace} (h : t.state = .received) (entityType : Option String)
    (readOnly : Bool) : write (t.declaring entityType) readOnly = write t readOnly := by
  cases hc : t.request.approvalContext with
  | none =>
    rw [write_of_no_context hc, write_of_no_context (t := t.declaring entityType) hc]
    rfl
  | some context =>
    cases readOnly with
    | true =>
      rw [write_of_readOnly hc, write_of_readOnly (t := t.declaring entityType) hc]
      rfl
    | false =>
      rw [write_eq h hc, write_eq (t := t.declaring entityType) h hc]
      refine congrArg (Program.note _)
        (congrArg (ApprovalRequest.reviewed _ _) (funext fun session => ?_))
      split
      · rename_i hs
        exact execute_declaring (t := { t with state := .awaitingApproval, granted := true }) rfl
          (eq_of_beq hs) entityType
      · rfl

/-- The entity type that a requester declares has no influence. -/
theorem handle_entityType (g : Gateway) (id : String) (request : ExecuteRequest)
    (entityType : Option String) :
    g.handle id { request with entityType } = g.handle id request := by
  unfold handle
  dsimp only
  cases classify request.sql with
  | error e => rfl
  | ok found =>
    dsimp only
    cases g.databases.get? request.databaseId with
    | none => rfl
    | some readOnly =>
      dsimp only
      generalize (if request.writeIntent then StatementClass.write else found) = statement
      let t := { RequestTrace.received id request with statement := some statement }
      split
      · exact write_declaring (t := t) rfl entityType readOnly
      · exact read_declaring (t := t) rfl entityType

end Gateway

/-- The outer world's view of a request. -/
inductive Disclosure where
  | recorded (event : AuditEvent)
  | returned (result : ExecutionResult)
  deriving DecidableEq

def Observation.disclosure? : Observation → Option Disclosure
  | .noted (.recorded event) => some (.recorded event)
  | .returned result => some (.returned result)
  | _ => none

/-- The results and audit events of all requests in the order they came. -/
def Traffic.disclosed (t : Traffic) : List (Nat × Disclosure) :=
  t.log.filterMap fun (i, seen) => seen.disclosure?.map fun d => (i, d)

/-- Moves that differ at most in what an output holds under masks. -/
inductive Move.Alike (r : SanitizerRegistry) : Move → Move → Prop where
  | same (m : Move) : m.Alike r m
  | answer {w : Wait} {a a' : w.Answer} : w.Alike r a a' → (Move.answer w a).Alike r (.answer w a')

/-- Actions that differ at most in declared entity types and in what an output holds under
masks. -/
inductive Action.Alike (r : SanitizerRegistry) : Action → Action → Prop where
  | tick : Action.tick.Alike r .tick
  | submit (request : ExecuteRequest) (entityType : Option String) :
    (Action.submit request).Alike r (.submit { request with entityType })
  | move (i : Nat) {m m' : Move} : m.Alike r m' → (Action.move i m).Alike r (.move i m')

namespace Phase

def Blind (r : SanitizerRegistry) : Phase → Prop
  | .running p => p.Blind r
  | .waiting _ w notes next => (Program.wait w notes next).Blind r
  | .ended => True

theorem Steps.blind {phase next : Phase} {now : Nat} {seen : List Observation}
    (hsteps : phase.Steps window now seen next) (h : phase.Blind r) : next.Blind r := by
  cases hsteps with
  | returns result => trivial
  | notes n next => exact h
  | calls w notes next => exact h
  | goesOn since notes next hadmits => exact h.1 _
  | givenUp since w notes next => trivial

/-- Alike moves are both refused, or disclose the same and lead to the same phase. -/
theorem step_alike {phase : Phase} (h : phase.Blind r) {m m' : Move} (hm : m.Alike r m')
    (window now : Nat) :
    (phase.step window now m = none ∧ phase.step window now m' = none) ∨
      ∃ seen seen' next, phase.step window now m = some (seen, next) ∧
        phase.step window now m' = some (seen', next) ∧
        seen.map Observation.disclosure? = seen'.map Observation.disclosure? := by
  cases hm with
  | same =>
    cases hstep : phase.step window now m with
    | none => exact .inl ⟨rfl, rfl⟩
    | some result => exact .inr ⟨_, _, _, rfl, rfl, rfl⟩
  | @answer w a a' halike =>
    cases phase with
    | running p => cases p <;> exact .inl ⟨rfl, rfl⟩
    | waiting since w' notes next =>
      by_cases heq : w = w'
      · subst heq
        simp only [step, dif_pos, halike.admits_iff]
        split
        · exact .inr ⟨[.answered w a (now - since)], [.answered w a' (now - since)], _,
            by rw [h.2 a a' halike], rfl, rfl⟩
        · exact .inl ⟨rfl, rfl⟩
      · simp only [step, dif_neg heq]
        exact .inl ⟨trivial, trivial⟩
    | ended => exact .inl ⟨rfl, rfl⟩

end Phase

namespace Traffic

variable {Connection : Type} {g : OpenGateway Connection}

/-- Two runs so far: the same requests stand in the same phases, and the same was disclosed. -/
structure Alike (r : SanitizerRegistry) (t t' : Traffic) : Prop where
  now_eq : t.now = t'.now
  nextRequest_eq : t.nextRequest = t'.nextRequest
  phases_eq : t.flights.map Flight.phase = t'.flights.map Flight.phase
  blind : ∀ f ∈ t.flights, f.phase.Blind r
  disclosed_eq : t.disclosed = t'.disclosed

theorem disclosed_append (t : Traffic) (i : Nat) (seen : List Observation)
    (flights : List Flight) :
    { t with flights, log := t.log ++ seen.map fun o => (i, o) }.disclosed =
      t.disclosed ++ (seen.map Observation.disclosure?).filterMap (Option.map (i, ·)) :=
  filterMap_append_entries _ _ _ _

theorem Alike.act {t t' : Traffic} (h : t.Alike g.sanitizers t') {a a' : Action}
    (ha : a.Alike g.sanitizers a') :
    (t.act g a).Alike g.sanitizers (t'.act g a') := by
  obtain ⟨hnow, hnext, hphases, hblind, hdisclosed⟩ := h
  cases ha with
  | tick => exact ⟨congrArg (· + 1) hnow, hnext, hphases, hblind, hdisclosed⟩
  | submit request entityType =>
    refine ⟨hnow, congrArg (· + 1) hnext, ?_, ?_, hdisclosed⟩
    · simp only [Traffic.act, List.map_append, hphases, hnext, Gateway.handle_entityType,
        List.map_cons, List.map_nil]
    · intro f hf
      rcases List.mem_append.1 hf with hf | hf
      · exact hblind f hf
      · cases List.mem_singleton.1 hf
        exact Gateway.blind_handle g.gateway _ request
  | @move i m m' hm =>
    have hphase : t.flights[i]?.map Flight.phase = t'.flights[i]?.map Flight.phase := by
      rw [← List.getElem?_map, ← List.getElem?_map, hphases]
    simp only [Traffic.act]
    cases hf : t.flights[i]? with
    | none =>
      cases hf' : t'.flights[i]? with
      | none => exact ⟨hnow, hnext, hphases, hblind, hdisclosed⟩
      | some f' => simp [hf, hf'] at hphase
    | some f =>
      cases hf' : t'.flights[i]? with
      | none => simp [hf, hf'] at hphase
      | some f' =>
        have heq : f.phase = f'.phase := by simpa [hf, hf'] using hphase
        have hfblind := hblind f (List.mem_of_getElem? hf)
        dsimp only
        rcases Phase.step_alike hfblind hm g.approvalTimeout t.now with
          ⟨hstep, hstep'⟩ | ⟨seen, seen', next, hstep, hstep', hseen⟩
        · rw [heq, hnow] at hstep'
          rw [hstep, hstep']
          exact ⟨hnow, hnext, hphases, hblind, hdisclosed⟩
        · rw [heq, hnow] at hstep'
          rw [hstep, hstep']
          refine ⟨hnow, hnext, ?_, ?_, ?_⟩
          · simp only [List.map_set, hphases]
          · intro f₁ hf₁
            rcases List.mem_or_eq_of_mem_set hf₁ with hf₁ | rfl
            · exact hblind f₁ hf₁
            · exact (Phase.steps_of_step hstep).blind hfblind
          · rw [disclosed_append, disclosed_append, hdisclosed, hseen]

theorem alike_after {actions actions' : List Action}
    (h : List.Forall₂ (Action.Alike g.sanitizers) actions actions') :
    (after g actions).Alike g.sanitizers (after g actions') := by
  suffices ∀ t t' : Traffic, t.Alike g.sanitizers t' →
      (actions.foldl (act g) t).Alike g.sanitizers (actions'.foldl (act g) t') from
    this start start ⟨rfl, rfl, rfl, by simp [start], rfl⟩
  induction h with
  | nil => exact fun _ _ h => h
  | cons ha _ ih => exact fun t t' h => ih _ _ (h.act ha)

end Traffic

/-- Runs whose databases answer with alike outputs disclose the same results and audit events. -/
theorem masked_content_undisclosed {Connection : Type} {g : OpenGateway Connection}
    {actions actions' : List Action}
    (h : List.Forall₂ (Action.Alike g.sanitizers) actions actions') :
    (Traffic.after g actions).disclosed = (Traffic.after g actions').disclosed :=
  (Traffic.alike_after h).disclosed_eq

def directory : OpenGateway Unit :=
  ⟨KeyMap.ofList [("main", ⟨(), true⟩)],
    SanitizerRegistry.empty.register "People"
      (.columnMask (KeyMap.ofList [("email", .preserveFormat), ("note", .null)])), 5⟩

/-- An output of the directory whose address is shown under another name. -/
def contacts (address : String) (note : Value) : QueryOutput :=
  ⟨[⟨"contact", some "people", some "EMAIL"⟩, ⟨"note", some "people", some "note"⟩],
    [[("contact", .string address), ("note", note)]]⟩

def listing (entityType : Option String) : ExecuteRequest :=
  ⟨"SELECT email AS contact, note FROM people", KeyMap.empty, "main", false, none, entityType⟩

/-- A read from its arrival to its result. -/
def readActions (request : ExecuteRequest) (output : QueryOutput) : List Action :=
  [.submit request, .move 0 .proceed, .move 0 .proceed,
    .move 0 (.answer (.query ⟨request.databaseId, request.sql, request.parameters⟩) (.ok output)),
    .move 0 .proceed, .move 0 .proceed, .move 0 .proceed]

theorem contacts_alike :
    (contacts "ann@1" .absent).Alike directory.sanitizers (contacts "bob@2" (.integer 5)) := by
  have hfits : ∀ address note, ∀ row ∈ (contacts address note).rows,
      Row.Fits (contacts address note).columns row := by
    intro address note row hrow
    cases List.mem_singleton.1 hrow
    have hkeys : ["contact", "note"].Pairwise (· < ·) := by decide
    exact ⟨List.pairwise_map.1 hkeys, fun key => by simp [contacts]⟩
  refine ⟨rfl, by decide, hfits _ _, hfits _ _, .cons ?_ .nil⟩
  intro origin hmem v v' hv hv'
  rcases List.mem_pair.1 hmem with rfl | rfl
  · cases hv
    cases hv'
    have hform : List.Forall₂ CharClasses.unicode17.SameForm "ann@1".toList "bob@2".toList := by
      decide +kernel
    exact .inr ⟨.preserveFormat, by decide, hform⟩
  · cases hv
    cases hv'
    exact .inr ⟨.null, by decide, trivial⟩

/-- The traffic of one read. -/
def listed (entityType : Option String) (output : QueryOutput) : Traffic :=
  Traffic.after directory (readActions (listing entityType) output)

/-- Different contacts are listed, and what is disclosed is the same masked row. -/
theorem masked_contacts_undisclosed :
    (0, .returned (.read [.object [("contact", .string "XXX@0"), ("note", .null)]] "req-1")) ∈
        (listed none (contacts "ann@1" .absent)).disclosed ∧
      (listed none (contacts "ann@1" .absent)).disclosed =
        (listed (some "Person") (contacts "bob@2" (.integer 5))).disclosed := by
  constructor
  · have hclass : classify (listing none).sql = .ok .read := by decide +kernel
    have hmain : directory.gateway.databases.get? (listing none).databaseId = some true := by decide
    have hstart : listed none (contacts "ann@1" .absent) =
        (readActions (listing none) (contacts "ann@1" .absent)).tail.foldl (Traffic.act directory)
          ⟨0, 2, [⟨"req-1", listing none, .running (directory.gateway.read
            { RequestTrace.received "req-1" (listing none) with statement := some .read })⟩], []⟩ := by
      rw [← Gateway.handle_of_read directory.gateway "req-1" hclass rfl hmain]
      rfl
    rw [hstart]
    exact List.mem_of_getElem? (i := 1) (by decide +kernel)
  · refine masked_content_undisclosed
      (.cons (.submit (listing none) (some "Person")) (.cons ?_ (.cons ?_ (.cons ?_ (.cons ?_
        (.cons ?_ (.cons ?_ .nil)))))))
    · exact .move 0 (.same .proceed)
    · exact .move 0 (.same .proceed)
    · exact .move 0 (.answer contacts_alike)
    all_goals exact .move 0 (.same .proceed)

end StatementGate
