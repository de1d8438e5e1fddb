import StatementGate.Gateway.Open

/-! # Requests in flight

An open gateway under any number of requests at once. Whoever drives it chooses the order of the
steps, every answer of the databases and the operators, and which requests are given up. A decision
has the time that the gateway was opened with. A step that does not apply changes nothing, so every
list of actions is a run. -/

namespace StatementGate

/-- What can be seen of a request while it is handled. An answer comes with the time that passed
since the call. -/
inductive Observation where
  | noted (note : Note)
  | called (wait : Wait)
  | answered (wait : Wait) (answer : wait.Answer) (elapsed : Nat)
  | abandoned
  | returned (result : ExecutionResult)

/-- Whether an answer may come after the given time. A decision comes within the wait window, and
the window ends when it is over. -/
def Wait.admits (window elapsed : Nat) : (w : Wait) → w.Answer → Prop
  | .decision _, .expired => window ≤ elapsed
  | .decision _, _ => elapsed ≤ window
  | _, _ => True

instance (window elapsed : Nat) (w : Wait) (a : w.Answer) : Decidable (w.admits window elapsed a) := by
  simp only [Wait.admits]
  split <;> infer_instance

/-- Where the handling of a request stands. -/
inductive Phase where
  | running (program : Program ExecutionResult)
  | waiting (since : Nat) (wait : Wait) (abandoned : List Note)
      (next : wait.Answer → Program ExecutionResult)
  | ended

/-- What may happen to one request: it goes on by itself up to its next wait, a wait is answered,
or the requester gives up. -/
inductive Move where
  | proceed
  | answer (wait : Wait) (answer : wait.Answer)
  | abandon

namespace Phase

/-- What a move lets be seen, and where the request stands then. -/
def step (window now : Nat) : Phase → Move → Option (List Observation × Phase)
  | .running (.done result), .proceed => some ([.returned result], .ended)
  | .running (.note n next), .proceed => some ([.noted n], .running next)
  | .running (.wait w abandoned next), .proceed =>
    some ([.called w], .waiting now w abandoned next)
  | .waiting since w _ next, .answer w' a =>
    if h : w' = w then
      let a : w.Answer := h ▸ a
      if w.admits window (now - since) a then
        some ([.answered w a (now - since)], .running (next a))
      else none
    else none
  | .waiting _ _ abandoned _, .abandon => some (.abandoned :: abandoned.map .noted, .ended)
  | _, _ => none

end Phase

structure Flight where
  id : String
  request : ExecuteRequest
  phase : Phase

/-- The requests of a gateway in the order of their arrival, and what was seen of each of them. -/
structure Traffic where
  now : Nat
  nextRequest : UInt64
  flights : List Flight
  log : List (Nat × Observation)

/-- A tick is a millisecond. -/
inductive Action where
  | tick
  | submit (request : ExecuteRequest)
  | move (flight : Nat) (move : Move)

namespace Traffic

variable {Connection : Type}

def start : Traffic := ⟨0, 1, [], []⟩

/-- What was seen of one request. -/
def history (t : Traffic) (flight : Nat) : List Observation :=
  t.log.filterMap fun (i, seen) => if i = flight then some seen else none

def act (g : OpenGateway Connection) (t : Traffic) : Action → Traffic
  | .tick => { t with now := t.now + 1 }
  | .submit request =>
    let id := requestId t.nextRequest.toNat
    { t with
      nextRequest := t.nextRequest + 1
      flights := t.flights ++ [⟨id, request, .running (g.gateway.handle id request)⟩] }
  | .move i move =>
    match t.flights[i]? with
    | none => t
    | some f =>
      match f.phase.step g.approvalTimeout t.now move with
      | none => t
      | some (seen, phase) =>
        { t with
          flights := t.flights.set i { f with phase }
          log := t.log ++ seen.map fun o => (i, o) }

/-- The state that a list of actions leads to. -/
def after (g : OpenGateway Connection) (actions : List Action) : Traffic :=
  actions.foldl (act g) start

end Traffic

end StatementGate
