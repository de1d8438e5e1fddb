import StatementGate.Envelope.Request
import StatementGate.Envelope.Result
import StatementGate.Json.Reader
import StatementGate.Text.Utf8

/-! # The gateway over HTTP

Which calls lead to the gateway, and the responses to all others. -/

namespace StatementGate.Http

structure Call where
  method : String
  path : String
  body : List UInt8
  deriving DecidableEq

/-- A response without a body in JSON has none here. -/
structure Response where
  status : Nat
  body : Option Json
  deriving DecidableEq

def executePath : String := "/v1/execute"

def healthPath : String := "/v1/health"

/-- The part of a request target before its query. -/
def pathOf (target : String) : String := String.ofList (target.toList.takeWhile (· != '?'))

def plain (status : Nat) : Response := ⟨status, none⟩

def healthy : Response := ⟨200, some (.object [("status", .string "ok")])⟩

/-- The cause of the failure follows in the text of a full response. -/
def invalidRequest : Response := ⟨400, some (.object [("error", .string "invalid request")])⟩

def ofResult (result : ExecutionResult) : Response := ⟨200, some result.encode⟩

def readRequest? (body : List UInt8) : Option ExecuteRequest := do
  let text ← (Utf8.decode body).toOption
  ExecuteRequest.decode? (← Json.read? text)

/-- The request that a call makes of the gateway, or the response if it makes none. -/
def route (maxBodyBytes : Nat) (call : Call) : Except Response ExecuteRequest :=
  let path := pathOf call.path
  if path = executePath then
    if call.method ≠ "POST" then .error (plain 405)
    else if maxBodyBytes < call.body.length then .error (plain 413)
    else
      match readRequest? call.body with
      | some request => .ok request
      | none => .error invalidRequest
  else if path = healthPath then
    if call.method = "GET" then .error healthy
    else if call.method = "HEAD" then .error (plain 200)
    else .error (plain 405)
  else .error (plain 404)

end StatementGate.Http
