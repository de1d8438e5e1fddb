import StatementGate.Gateway.Handle
import StatementGate.Rehearsal.Operator

/-! # Rehearsals

Running programs with databases that answer at once, an operator of known behaviour and a clock on
which nothing but waiting takes time. -/

namespace StatementGate.Rehearsal

/-- How databases in a state of type `σ` answer. -/
structure Host (σ : Type) where
  query : DatabaseCall → σ → Except CallFailure QueryOutput × σ
  execute : DatabaseCall → σ → Except CallFailure Nat × σ

/-- What changes in the course of a rehearsal, and what was observed of the current request. -/
structure World (σ : Type) where
  databases : σ
  approver : Approver
  nextRequest : UInt64
  calls : List Wait
  events : List AuditEvent
  report : Report

namespace World

variable {σ : Type}

def start (databases : σ) (approver : Approver) : World σ :=
  ⟨databases, approver, 1, [], [], .empty⟩

/-- Forgets what was observed of the last request, and lets the operator prepare for the next. -/
def begin (w : World σ) (b : Behaviour) : World σ :=
  { w with approver := w.approver.clearOutput.prepare b, calls := [], events := [], report := .empty }

def note (w : World σ) : Note → World σ
  | .entered _ => w
  | .recorded event => { w with events := w.events ++ [event] }

end World

/-- The circumstances of one request. The wait for a decision is limited in milliseconds; `during`
happens while an operator looks at the request. -/
structure Scene (σ : Type) where
  host : Host σ
  timeout : Nat
  behaviour : Behaviour
  during : Option (World σ → List ExecutionResult × World σ)

namespace Scene

variable {σ α : Type}

def surface (s : Scene σ) (r : ApprovalRequest) (w : World σ) :
    Option (Except ApprovalError Unit) × World σ :=
  match w.approver with
  | .denyAll => (some (.ok ()), w)
  | .terminal console =>
    let (result, console) := console.surface r
    (some result, { w with approver := .terminal console })
  | .channel channel =>
    let (result, channel) := channel.surface r
    let shown := s.behaviour.takesMessage && !channel.isClosed && 0 < s.timeout
    (result, { w with
      approver := .channel (if shown then channel.drain else channel),
      report := { w.report with shown := if shown then some r else none } })

/-- Nobody answers: the requester gives up, or the time is over. -/
def unanswered (s : Scene σ) : Option Verdict :=
  if s.behaviour = .abandon ∧ 1 < s.timeout then none else some .expired

/-- What happens while a request is shown. -/
def interlude (s : Scene σ) (w : World σ) : World σ :=
  match s.during with
  | none => w
  | some during =>
    let report := w.report
    let (results, w) := during w
    { w with report := { report with during := some results } }

/-- The verdict on a request; a read of the console that blocked goes on with the next request. -/
def decide (s : Scene σ) (requestId : String) (w : World σ) : Option Verdict × World σ :=
  match w.approver with
  | .denyAll => (some (.decided .rejected), w)
  | .terminal console =>
    match console.answer requestId with
    | (.decided decision, console) =>
      (some (.decided decision), { w with approver := .terminal console })
    | (.failed error, console) => (some (.failed error), { w with approver := .terminal console })
    | (.waiting, console) =>
      (s.unanswered, { w with approver := .terminal { console with input := console.input.drop 1 } })
  | .channel _ =>
    if w.report.shown.isSome then
      let w := s.interlude w
      let (verdict, report) := s.behaviour.handle w.report
      (verdict, { w with report })
    else (s.unanswered, w)

/-- The answer to a wait, if the program goes on there. -/
def reply (s : Scene σ) (wait : Wait) (w : World σ) : Option wait.Answer × World σ :=
  match wait with
  | .query call =>
    let (answer, databases) := s.host.query call w.databases
    (some answer, { w with databases, calls := w.calls ++ [.query call] })
  | .execute call =>
    let (answer, databases) := s.host.execute call w.databases
    (some answer, { w with databases, calls := w.calls ++ [.execute call] })
  | .surface request => s.surface request w
  | .decision requestId => s.decide requestId w

/-- The result of a program, if it is not abandoned. -/
def run (s : Scene σ) : Program α → World σ → Option α × World σ
  | .done result, w => (some result, w)
  | .note n next, w => s.run next (w.note n)
  | .wait wait abandoned next, w =>
    match s.reply wait w with
    | (some answer, w) => s.run (next answer) w
    | (none, w) => (none, abandoned.foldl World.note w)

/-- Hands a request to a gateway, which numbers it. -/
def submit (s : Scene σ) (g : Gateway) (request : ExecuteRequest) (w : World σ) :
    Option ExecutionResult × World σ :=
  s.run (g.handle (requestId w.nextRequest.toNat) request) { w with nextRequest := w.nextRequest + 1 }

/-- Hands over requests one after another. -/
def submitAll (s : Scene σ) (g : Gateway) (requests : List ExecuteRequest) (w : World σ) :
    List ExecutionResult × World σ :=
  requests.foldl (fun (results, w) request =>
    let (result, w) := s.submit g request w
    (results ++ result.toList, w)) ([], w)

/-- An observed request: the operator prepares, then the gateway handles it. -/
def stage (s : Scene σ) (g : Gateway) (during : List ExecuteRequest) (request : ExecuteRequest)
    (w : World σ) : Option ExecutionResult × World σ :=
  let meanwhile := { s with behaviour := .ignore, during := none }
  let s := if during.isEmpty then s else { s with during := some (meanwhile.submitAll g during) }
  s.submit g request (w.begin s.behaviour)

end Scene

end StatementGate.Rehearsal
