import StatementGate.Client.Endpoint
import StatementGate.Envelope.Request
import StatementGate.Envelope.Result
import StatementGate.Json.Reader
import StatementGate.Text.Utf8
import StatementGate.Wire.Rows
import StatementGate.Wire.Typed

/-! # Calling a gateway

What a client sends to a gateway, and what it makes of the response. A response counts only up to a
size, and data is taken only from a result that is complete and consistent. -/

namespace StatementGate

inductive ClientError where
  | endpoint (error : EndpointError)
  | transport
  | status (status : Nat) (message : String)
  | encoding (error : ScalarError)
  | invalidResult
  | unapproved
  | noRows
  | tooLarge (limit : Nat)
  | execution (message : String)
  | notFetchable (keyword : String)
  | rows (error : RowsError)
  | codec (error : CodecError)

namespace ClientError

/-- The causes of transport errors and ill-formed results are left out. -/
def message : ClientError → String
  | .endpoint error => s!"client config error: {error.message}"
  | .transport => "transport error"
  | .status code text => s!"gateway returned status {code}: {text}"
  | .encoding error => s!"protocol error: request encoding failed: {error.message}"
  | .invalidResult => "protocol error: invalid execution result"
  | .unapproved => "protocol error: gateway reported an executed statement that was not approved"
  | .noRows => "protocol error: read result carried no rows"
  | .tooLarge limit => s!"gateway response exceeds {limit} bytes"
  | .execution text => s!"execution failed: {text}"
  | .notFetchable keyword => s!"{keyword} statements need approval; use execute instead of fetch"
  | .rows error => error.message
  | .codec error => error.message

end ClientError

structure ClientRequest where
  method : String
  target : String
  body : Option Json
  deriving DecidableEq

/-- A response as it arrives, with its length if it declares one. -/
structure ClientResponse where
  status : Nat
  declaredLength : Option Nat
  body : List UInt8
  deriving DecidableEq

/-- A call of a gateway: settled at once, or by the response to one request. Without a response the
transport failed. -/
inductive Exchange (α : Type) where
  | settled (result : Except ClientError α)
  | request (request : ClientRequest) (conclude : Option ClientResponse → Except ClientError α)

namespace Exchange

variable {α β : Type}

def andThen (e : Exchange α) (f : α → Except ClientError β) : Exchange β :=
  match e with
  | .settled result => .settled (result.bind f)
  | .request r conclude => .request r fun response => (conclude response).bind f

end Exchange

namespace ClientResponse

def isSuccess (r : ClientResponse) : Bool := 200 ≤ r.status && r.status < 300

/-- Some responses have no body, whatever they declare. -/
def isBodiless (r : ClientResponse) : Bool := r.status == 204 || r.status == 304

/-- How much of a body an error message repeats. -/
def maxEchoChars : Nat := 512

/-- What a gateway says of a failure: the error its body names, or the body itself. -/
def errorMessage (body : List UInt8) : String :=
  let named : Option String := do
    let text ← (Utf8.decode body).toOption
    let j ← Json.read? text
    (← j.normalize.get? "error").string?
  String.ofList ((named.getD (Utf8.decodeLossy body)).toList.take maxEchoChars)

/-- The body of a success, if neither its declared nor its actual length is above the limit. -/
def read (limit : Nat) (r : ClientResponse) : Except ClientError (List UInt8) :=
  let r := if r.isBodiless then { r with declaredLength := none, body := [] } else r
  if r.declaredLength.any (limit < ·) || limit < r.body.length then .error (.tooLarge limit)
  else if r.isSuccess then .ok r.body
  else .error (.status r.status (errorMessage r.body))

end ClientResponse

structure Client where
  endpoint : Endpoint
  databaseId : String
  maxResponseBytes : Nat
  registry : Registry

namespace Client

def defaultMaxResponseBytes : Nat := 16 * 1024 * 1024

def send (c : Client) (r : ClientRequest) : Exchange (List UInt8) :=
  .request r fun
    | none => .error .transport
    | some response => response.read c.maxResponseBytes

def health (c : Client) : Exchange Unit :=
  (c.send ⟨"GET", c.endpoint.target "v1/health", none⟩).andThen fun _ => .ok ()

def readResult (body : List UInt8) : Except ClientError ExecutionResult :=
  match ExecutionResult.readBytes? body with
  | none => .error .invalidResult
  | some result => if result.isConsistent then .ok result else .error .unapproved

/-- Has the gateway execute a request. -/
def submit (c : Client) (r : ExecuteRequest) : Exchange ExecutionResult :=
  match r.encode with
  | .error e => .settled (.error (.encoding e))
  | .ok body =>
    (c.send ⟨"POST", c.endpoint.target "v1/execute", some body⟩).andThen readResult

def execute (c : Client) (q : SerializedQuery) (context : Option ApprovalContext) :
    Exchange ExecutionResult :=
  c.submit (ExecuteRequest.ofQuery q c.databaseId context)

/-- The rows of a result that was executed without an error. -/
def resultRows (r : ExecutionResult) : Except ClientError (List Json) :=
  match r.error with
  | some message => .error (.execution message)
  | none =>
    if !r.executed then .error (.execution "statement did not execute")
    else
      match r.rows with
      | some rows => .ok rows
      | none => .error .noRows

/-- Fetches what a query reads as a value of a type. A write is not sent at all. -/
def fetch (c : Client) (q : SerializedQuery) (d : Descriptor) : Exchange Value :=
  if q.writeIntent then .settled (.error (.notFetchable q.kind.keyword))
  else
    (c.execute q none).andThen fun result => do
      (decodeRows c.registry (← resultRows result) d).mapError .rows

def fetchAs (c : Client) (conversion : Conversion α) (q : SerializedQuery) (d : Descriptor) :
    Exchange α :=
  (c.fetch q d).andThen fun v => (conversion.read v).mapError .codec

end Client

end StatementGate
