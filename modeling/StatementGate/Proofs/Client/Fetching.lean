import StatementGate.Client.Exchange
import StatementGate.Proofs.Outcome

/-! # What a client takes from a gateway

A gateway may answer with any bytes. A client takes data from an answer only if all of it arrived
within the limit, as a success, and is the consistent result of an executed read whose rows fit. For
a write it asks nothing. -/

namespace StatementGate

namespace Exchange

variable {α β : Type}

/-- The request that is sent, if one is. -/
def sent : Exchange α → Option ClientRequest
  | .settled _ => none
  | .request r _ => some r

/-- What comes of the exchange when the gateway answers any request with the response. -/
def outcome : Exchange α → ClientResponse → Except ClientError α
  | .settled result, _ => result
  | .request _ conclude, response => conclude (some response)

@[simp] theorem sent_andThen (e : Exchange α) (f : α → Except ClientError β) :
    (e.andThen f).sent = e.sent := by
  cases e <;> rfl

@[simp] theorem outcome_andThen (e : Exchange α) (f : α → Except ClientError β)
    (response : ClientResponse) :
    (e.andThen f).outcome response = e.outcome response >>= f := by
  cases e <;> rfl

end Exchange

namespace ClientResponse

/-- The response as it is delivered: statuses that have no body are delivered without one. -/
def delivered (r : ClientResponse) : ClientResponse :=
  if r.isBodiless then { r with declaredLength := none, body := [] } else r

/-- The whole of a success arrives, and neither its declared nor its actual length is above the
limit. -/
structure Arrives (limit : Nat) (r : ClientResponse) : Prop where
  declared : ∀ length, r.declaredLength = some length → length ≤ limit
  actual : r.body.length ≤ limit
  success : 200 ≤ r.status ∧ r.status < 300

theorem arrives_iff {limit : Nat} {r : ClientResponse} : r.Arrives limit ↔
    (r.declaredLength.any (limit < ·) || limit < r.body.length) = false ∧ r.isSuccess = true := by
  have hdeclared : r.declaredLength.any (limit < ·) = false ↔
      ∀ length, r.declaredLength = some length → length ≤ limit := by
    cases r.declaredLength <;> simp
  rw [Bool.or_eq_false_iff, hdeclared, decide_eq_false_iff_not, Nat.not_lt, isSuccess,
    Bool.and_eq_true, decide_eq_true_eq, decide_eq_true_eq]
  constructor
  · rintro ⟨hlengths, hactual, hsuccess⟩
    exact ⟨⟨hlengths, hactual⟩, hsuccess⟩
  · rintro ⟨⟨hlengths, hactual⟩, hsuccess⟩
    exact ⟨hlengths, hactual, hsuccess⟩

theorem read_eq_ok {limit : Nat} {r : ClientResponse} {body : List UInt8} :
    r.read limit = .ok body ↔ r.delivered.Arrives limit ∧ body = r.delivered.body := by
  have hread : r.read limit =
      if r.delivered.declaredLength.any (limit < ·) || limit < r.delivered.body.length then
        .error (.tooLarge limit)
      else if r.delivered.isSuccess then .ok r.delivered.body
      else .error (.status r.delivered.status (errorMessage r.delivered.body)) := rfl
  rw [hread, arrives_iff]
  split_ifs with hlarge hsuccess
  · simp [hlarge]
  · simp [hlarge, hsuccess, eq_comm]
  · simp [hsuccess]

end ClientResponse

namespace Client

variable {c : Client} {q : SerializedQuery} {d : Descriptor}

theorem readResult_eq_ok {body : List UInt8} {result : ExecutionResult} :
    readResult body = .ok result ↔
      ExecutionResult.readBytes? body = some result ∧ result.isConsistent = true := by
  rw [readResult]
  cases ExecutionResult.readBytes? body with
  | none => simp
  | some read =>
    by_cases hconsistent : read.isConsistent = true
    · simp only [hconsistent, if_true, Except.ok.injEq, Option.some.injEq]
      exact ⟨fun h => ⟨h, h ▸ hconsistent⟩, And.left⟩
    · simp only [hconsistent, if_false, reduceCtorEq, false_iff, Option.some.injEq]
      rintro ⟨rfl, h⟩
      exact hconsistent h

/-- Rows are taken from a result that was executed without an error. -/
theorem resultRows_eq_ok {result : ExecutionResult} {rows : List Json} :
    resultRows result = .ok rows ↔
      result.error = none ∧ result.executed = true ∧ result.rows = some rows := by
  rw [resultRows]
  cases result.error with
  | some message => simp
  | none =>
    cases result.executed with
    | false => simp
    | true => cases result.rows <;> simp

/-- A result that is complete and not at odds with itself: executed, not against a denial, without an
error, and with these rows. -/
structure Completes (result : ExecutionResult) (rows : List Json) : Prop where
  executed : result.executed = true
  undenied : result.approved ≠ some false
  faultless : result.error = none
  rows_eq : result.rows = some rows

theorem completes_iff {result : ExecutionResult} {rows : List Json} :
    Completes result rows ↔ result.isConsistent = true ∧ resultRows result = .ok rows := by
  rw [resultRows_eq_ok, ExecutionResult.isConsistent]
  constructor
  · rintro ⟨hexecuted, hundenied, hfaultless, hrows⟩
    exact ⟨by simp [hundenied], hfaultless, hexecuted, hrows⟩
  · rintro ⟨hconsistent, hfaultless, hexecuted, hrows⟩
    exact ⟨hexecuted, by simpa [hexecuted] using hconsistent, hfaultless, hrows⟩

/-- The response is a complete and consistent read whose rows are a value of the type. -/
def Reads (c : Client) (d : Descriptor) (response : ClientResponse) (v : Value) : Prop :=
  response.Arrives c.maxResponseBytes ∧
    ∃ result rows, ExecutionResult.readBytes? response.body = some result ∧
      Completes result rows ∧ decodeRows c.registry rows d = .ok v

theorem sent_submit {r : ExecuteRequest} {request : ClientRequest} :
    (c.submit r).sent = some request ↔
      ∃ body, r.encode = .ok body ∧ request = ⟨"POST", c.endpoint.target "v1/execute", some body⟩ := by
  rw [submit]
  cases r.encode with
  | error e => simp [Exchange.sent]
  | ok body =>
    rw [Exchange.sent_andThen]
    simp [send, Exchange.sent, eq_comm]

theorem outcome_submit_eq_ok {r : ExecuteRequest} {response : ClientResponse}
    {result : ExecutionResult} :
    (c.submit r).outcome response = .ok result ↔ Succeeds r.encode ∧
      response.delivered.Arrives c.maxResponseBytes ∧
      ExecutionResult.readBytes? response.delivered.body = some result ∧
      result.isConsistent = true := by
  rw [submit]
  cases r.encode with
  | error e => simp [Exchange.outcome, not_succeeds_error]
  | ok body =>
    have hsend : (c.send ⟨"POST", c.endpoint.target "v1/execute", some body⟩).outcome response =
        response.read c.maxResponseBytes := rfl
    simp only [Exchange.outcome_andThen, hsend, bind_eq_ok, ClientResponse.read_eq_ok,
      readResult_eq_ok, succeeds_ok, true_and]
    constructor
    · rintro ⟨_, ⟨harrives, rfl⟩, hread⟩
      exact ⟨harrives, hread⟩
    · rintro ⟨harrives, hread⟩
      exact ⟨_, ⟨harrives, rfl⟩, hread⟩

theorem succeeds_encode_ofQuery {databaseId : String} {context : Option ApprovalContext} :
    Succeeds (ExecuteRequest.ofQuery q databaseId context).encode ↔ Succeeds q.parameters.encode :=
  succeeds_bind_ok

theorem outcome_read_eq_ok (hread : q.writeIntent = false) {response : ClientResponse} {v : Value} :
    (c.fetch q d).outcome response = .ok v ↔
      Succeeds q.parameters.encode ∧ c.Reads d response.delivered v := by
  rw [fetch, hread, if_neg Bool.false_ne_true, Exchange.outcome_andThen, bind_eq_ok]
  simp only [execute, outcome_submit_eq_ok, succeeds_encode_ofQuery, bind_eq_ok, mapError_eq_ok]
  constructor
  · rintro ⟨result, ⟨hencode, harrives, hbytes, hconsistent⟩, rows, hrows, hvalue⟩
    have hcompletes := completes_iff.2 ⟨hconsistent, hrows⟩
    exact ⟨hencode, harrives, result, rows, hbytes, hcompletes, hvalue⟩
  · rintro ⟨hencode, harrives, result, rows, hbytes, hcompletes, hvalue⟩
    obtain ⟨hconsistent, hrows⟩ := completes_iff.1 hcompletes
    exact ⟨result, ⟨hencode, harrives, hbytes, hconsistent⟩, rows, hrows, hvalue⟩

/-- A value is fetched exactly by a read that can be sent, from a response that is complete and
consistent and whose rows are that value. What is sent asks for just this read; a write is not sent. -/
theorem fetched_iff (c : Client) (q : SerializedQuery) (d : Descriptor) :
    (∀ (response : ClientResponse) (v : Value), (c.fetch q d).outcome response = .ok v ↔
      q.writeIntent = false ∧ Succeeds q.parameters.encode ∧ c.Reads d response.delivered v) ∧
    ∀ request : ClientRequest, (c.fetch q d).sent = some request ↔
      q.writeIntent = false ∧ ∃ body,
        (ExecuteRequest.ofQuery q c.databaseId none).encode = .ok body ∧
        request = ⟨"POST", c.endpoint.target "v1/execute", some body⟩ := by
  cases hwrite : q.writeIntent with
  | true =>
    rw [fetch, if_pos hwrite]
    simp [Exchange.outcome, Exchange.sent]
  | false =>
    refine ⟨fun response v => ?_, fun request => ?_⟩
    · rw [outcome_read_eq_ok hwrite, eq_self, true_and]
    · rw [fetch, if_neg (by simp [hwrite]), Exchange.sent_andThen, execute, sent_submit, eq_self,
        true_and]

/-- The totals above three. -/
def totals : SerializedQuery :=
  ⟨"SELECT total FROM totals WHERE total > :p0", KeyMap.ofList [("p0", .int 3)], .select, "Total"⟩

def totalsClient (limit : Nat) : Client := ⟨⟨false, "/"⟩, "main", limit, .empty⟩

/-- The one total above three, in 57 bytes. -/
def totalsAnswer : List UInt8 :=
  "\x7b\"executed\":true,\"approved\":null,\"rows\":[7],\"error\":null\x7d".toUTF8.toList

theorem readBytes?_totalsAnswer : ExecutionResult.readBytes? totalsAnswer =
    some ⟨true, none, some [Json.int 7], none, none, none⟩ := by
  decide +kernel

theorem decodeRows_totals :
    decodeRows .empty [Json.int 7] (.list (.scalar .integer)) = .ok (.list [.integer 7]) := by
  simp [decodeRows, Descriptor.takesAllRows, decode, decodeAt, decodeItems, decodeScalar,
    absentMark, Json.int, fitsInt64]
  rfl

/-- The answer is read if it just fits in, and not if it is one byte too long. -/
theorem totals_fetched :
    ((totalsClient 57).fetch totals (.list (.scalar .integer))).outcome
        ⟨200, some 57, totalsAnswer⟩ = .ok (.list [.integer 7]) ∧
      ∀ v, ((totalsClient 56).fetch totals (.list (.scalar .integer))).outcome
        ⟨200, none, totalsAnswer⟩ ≠ .ok v := by
  have hlength : totalsAnswer.length = 57 := by decide +kernel
  have hencode : Succeeds totals.parameters.encode := ⟨_, rfl⟩
  constructor
  · rw [(fetched_iff _ _ _).1]
    refine ⟨rfl, hencode, ⟨fun n hn => ?_, Nat.le_of_eq hlength, by decide⟩, _, _,
      readBytes?_totalsAnswer, ⟨rfl, by decide, rfl, rfl⟩, decodeRows_totals⟩
    cases hn
    exact Nat.le_refl 57
  · intro v h
    obtain ⟨-, -, harrives, -⟩ := ((fetched_iff _ _ _).1 _ _).1 h
    have hactual : totalsAnswer.length ≤ 56 := harrives.actual
    omega

end Client

end StatementGate
