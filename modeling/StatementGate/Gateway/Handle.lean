import StatementGate.Approval.Session
import StatementGate.Envelope.Result

/-! # The gateway

How a request is handled. A read goes to its database at once and its rows are sanitized; a write
is executed only on a database that may be written and after an operator approved it. One audit
event closes every request, also one that is abandoned. -/

namespace StatementGate

/-- The databases, each with whether it is read-only, and the sanitization policies. -/
structure Gateway where
  databases : KeyMap Bool
  sanitizers : SanitizerRegistry

/-- What is known of a request while it is handled. -/
structure RequestTrace where
  id : String
  request : ExecuteRequest
  state : RequestState
  statement : Option StatementClass
  granted : Bool
  rowsReturned : Option Nat
  rowsAffected : Option Nat

namespace RequestTrace

def received (id : String) (request : ExecuteRequest) : RequestTrace :=
  ⟨id, request, .received, none, false, none, none⟩

/-- Whether a write was approved; nothing for a read. -/
def approved (t : RequestTrace) : Option Bool :=
  if t.request.writeIntent || t.statement == some .write then some t.granted else none

def event (t : RequestTrace) (outcome : RequestState) (approved : Option Bool)
    (errorKind : Option String) : AuditEvent :=
  .execute ⟨t.id, t.request.databaseId, t.statement, outcome, approved, Sha256.ofText t.request.sql,
    t.request.parameterNames, t.rowsReturned, t.rowsAffected, errorKind⟩

/-- What is noted when the request is given up. -/
def abandonment (t : RequestTrace) : List Note :=
  [.recorded (t.event .rejected t.approved (some "abandoned"))]

def call (t : RequestTrace) : DatabaseCall :=
  ⟨t.request.databaseId, t.request.sql, t.request.parameters⟩

def approvalRequest (t : RequestTrace) (context : ApprovalContext) : ApprovalRequest :=
  ⟨t.id, t.request.databaseId, t.request.sql, t.request.parameterNames, context⟩

/-- Ends the request with its audit event. -/
def finish (t : RequestTrace) (outcome : RequestState) (result : ExecutionResult)
    (errorKind : Option String) : Program ExecutionResult :=
  .record (t.event outcome result.approved errorKind) (.done result)

/-- Only a sanitization error tells that the statement was executed. -/
def failureResult (t : RequestTrace) (error : GatewayError) : ExecutionResult :=
  let message := error.describe t.request.sql
  match error with
  | .sanitize _ => .withheld message t.id
  | _ => .notExecuted t.approved (some message) t.id

def fail (t : RequestTrace) (error : GatewayError) : Program ExecutionResult :=
  t.finish .failed (t.failureResult error) (some error.kind)

/-- Goes on in the next state. -/
def enter (t : RequestTrace) (next : RequestState)
    (go : RequestTrace → Program ExecutionResult) : Program ExecutionResult :=
  if t.state.canTransition next then .note (.entered next) (go { t with state := next })
  else t.fail (.invalidTransition t.state next)

def reject (t : RequestTrace) (error : Option String) : Program ExecutionResult :=
  t.enter .rejected fun t => t.finish .rejected (.notExecuted (some false) error t.id) none

end RequestTrace

namespace ApprovalSession

/-- Why a session that was not approved denies its request. -/
def denial (s : ApprovalSession) : Option String :=
  if s.state = .timedOut then some "approval timed out" else s.detail

end ApprovalSession

namespace Gateway

/-- Asks a database and returns its rows sanitized. -/
def read (g : Gateway) (t : RequestTrace) : Program ExecutionResult :=
  t.enter .readExecuting fun t =>
    .wait (.query t.call) t.abandonment fun
      | .error failure => t.fail (.call failure)
      | .ok output =>
        let t := { t with rowsReturned := some output.rows.length }
        match g.sanitizers.sanitize output with
        | .error error => t.fail (.sanitize error)
        | .ok rows =>
          match rows.mapM Row.encode with
          | .error error => t.fail (.codec error)
          | .ok rows => t.enter .succeeded fun t => t.finish .succeeded (.read rows t.id) none

/-- Executes an approved statement. -/
def execute (t : RequestTrace) (session : ApprovalSession) : Program ExecutionResult :=
  .wait (.execute t.call) t.abandonment fun
    | .ok rowsAffected => do
      match ← session.enter .executed none with
      | .error error => t.fail (.approval error)
      | .ok _ =>
        let t := { t with rowsAffected := some rowsAffected }
        t.enter .succeeded fun t => t.finish .succeeded (.written rowsAffected t.id) none
    | .error failure => do
      match ← session.enter .executionFailed (some failure.message) with
      | .error error => t.fail (.approval error)
      | .ok _ => t.fail (.call failure)

/-- Has a statement reviewed and executes it if it is approved. -/
def write (t : RequestTrace) (readOnly : Bool) : Program ExecutionResult :=
  match t.request.approvalContext with
  | none => t.reject (some "write requires approvalContext")
  | some context =>
    if readOnly then t.fail (.readOnlyDatabase t.request.databaseId)
    else
      t.enter .awaitingApproval fun t => do
        match ← (t.approvalRequest context).review.onAbandon t.abandonment with
        | .error error => t.fail (.approval error)
        | .ok session =>
          if session.isApproved then execute { t with granted := true } session
          else t.reject session.denial

/-- Handles the request of the given identity. A declared write is a write whatever its text. -/
def handle (g : Gateway) (id : String) (request : ExecuteRequest) : Program ExecutionResult :=
  let t := RequestTrace.received id request
  match classify request.sql with
  | .error error => t.fail (.classify error)
  | .ok found =>
    let statement := if request.writeIntent then .write else found
    let t := { t with statement := some statement }
    match g.databases.get? request.databaseId with
    | none => t.fail (.unknownDatabase request.databaseId)
    | some readOnly => if statement = .write then write t readOnly else g.read t

end Gateway

end StatementGate
