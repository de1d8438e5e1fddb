import StatementGate.Envelope.Request

/-! # Approval prompts

What an operator is shown of a write: everything but the values of its parameters. -/

namespace StatementGate

structure ApprovalRequest where
  requestId : String
  databaseId : String
  sql : String
  parameterNames : List String
  context : ApprovalContext
  deriving DecidableEq

namespace ApprovalRequest

private def parameterLine (names : List String) : List String :=
  if names.isEmpty then [] else ["params:   " ++ ", ".intercalate names]

/-- The lines of the prompt before the question. -/
def promptLines (r : ApprovalRequest) : List String :=
  ["", "=== write approval required (" ++ r.requestId ++ ") ===",
    "database: " ++ r.databaseId,
    "reason:   " ++ r.context.reason,
    "sql:      " ++ r.sql] ++
  parameterLine r.parameterNames ++
  r.context.entityDescriptions.entries.map fun (key, description) =>
    "  - " ++ key ++ ": " ++ description

def prompt (r : ApprovalRequest) : String :=
  String.join (r.promptLines.map (· ++ "\n")) ++ "approve? [y " ++ r.requestId ++ "/N] "

/-- What an operator is told who says yes without naming the request. -/
def reminder (requestId : String) : String := "type 'y " ++ requestId ++ "' to approve: "

end ApprovalRequest

end StatementGate
