import StatementGate.Approval.State
import StatementGate.Classification
import StatementGate.Database.Basic
import StatementGate.Gateway.State
import StatementGate.Sanitization
import StatementGate.Wire.Codec

/-! # Gateway errors

Why a request failed or a gateway could not be set up. -/

namespace StatementGate

/-- Why a call of a database brought no answer. -/
inductive CallFailure where
  | database (error : DatabaseError)
  | interrupted (reason : String)
  deriving DecidableEq

inductive GatewayError where
  | classify (error : ClassifyError)
  | unknownDatabase (id : String)
  | readOnlyDatabase (id : String)
  | call (failure : CallFailure)
  | sanitize (error : SanitizeError)
  | codec (error : CodecError)
  | approval (error : ApprovalError)
  | invalidTransition (source target : RequestState)
  | setup (reason : String)

namespace CallFailure

def message : CallFailure → String
  | .database error => s!"execution error: {error.message}"
  | .interrupted reason => s!"execution task failed: {reason}"

end CallFailure

namespace GatewayError

def message : GatewayError → String
  | .classify error => s!"parse error: {error.message}"
  | .unknownDatabase id => s!"unknown database: {id}"
  | .readOnlyDatabase id => s!"database {id} is read-only"
  | .call failure => failure.message
  | .sanitize error => error.message
  | .codec error => s!"encode error: {error.message}"
  | .approval error => error.message
  | .invalidTransition source target =>
    s!"invalid request transition from {source.label} to {target.label}"
  | .setup reason => s!"gateway init failed: {reason}"

/-- The name of an error's kind in the audit trail. -/
def kind : GatewayError → String
  | .classify _ => "parse_error"
  | .unknownDatabase _ => "unknown_database"
  | .readOnlyDatabase _ => "read_only_database"
  | .call (.database _) => "execution_error"
  | .call (.interrupted _) => "task_error"
  | .sanitize _ => "sanitization_gap"
  | .codec _ => "validation_error"
  | .approval _ => "approval_error"
  | .invalidTransition _ _ => "internal_error"
  | .setup _ => "init_error"

/-- What a requester is told: database errors name the statement. -/
def describe (sql : String) : GatewayError → String
  | .call (.database error) =>
    s!"{(CallFailure.database error).message} (statement: {sql})"
  | error => error.message

end GatewayError

end StatementGate
