import StatementGate.Approval.State
import StatementGate.Classification
import StatementGate.Gateway.State
import StatementGate.Json.Basic

/-! # Audit events

What is recorded of a request: each step of its approval, and once how it ended. An event names
parameters but holds none of their values. -/

namespace StatementGate

structure ApprovalEvent where
  requestId : String
  source : Option ApprovalState
  target : ApprovalState
  contextHash : Option String
  detail : Option String
  deriving DecidableEq

/-- The end of a request. The statement's class is unknown if the request failed before it was
found. -/
structure ExecuteEvent where
  requestId : String
  databaseId : String
  statement : Option StatementClass
  outcome : RequestState
  approved : Option Bool
  sqlHash : String
  parameterNames : List String
  rowsReturned : Option Nat
  rowsAffected : Option Nat
  errorKind : Option String
  deriving DecidableEq

inductive AuditEvent where
  | approval (event : ApprovalEvent)
  | execute (event : ExecuteEvent)
  deriving DecidableEq

namespace ApprovalEvent

def encode (e : ApprovalEvent) : Json :=
  .object [("context_hash", Json.ofOptionString e.contextHash),
    ("detail", Json.ofOptionString e.detail), ("event", .string "approval_transition"),
    ("from", Json.ofOptionString (e.source.map ApprovalState.label)),
    ("request_id", .string e.requestId), ("to", .string e.target.label)]

end ApprovalEvent

namespace ExecuteEvent

def encode (e : ExecuteEvent) : Json :=
  .object [("approved", Json.ofOption .bool e.approved), ("database_id", .string e.databaseId),
    ("error_kind", Json.ofOptionString e.errorKind), ("event", .string "execute_request"),
    ("outcome", .string e.outcome.label),
    ("parameter_names", .array (e.parameterNames.map .string)),
    ("request_id", .string e.requestId),
    ("rows_affected", Json.ofOption (fun n => .int n) e.rowsAffected),
    ("rows_returned", Json.ofOption (fun n => .int n) e.rowsReturned),
    ("sql_hash", .string e.sqlHash),
    ("statement", Json.ofOptionString (e.statement.map StatementClass.label))]

end ExecuteEvent

namespace AuditEvent

def requestId : AuditEvent → String
  | .approval e => e.requestId
  | .execute e => e.requestId

def encode : AuditEvent → Json
  | .approval e => e.encode
  | .execute e => e.encode

end AuditEvent

end StatementGate
