import StatementGate.Json.Outline
import StatementGate.Json.Record

/-! # Execution results

What became of a request: whether its statement was executed, whether a write was approved, and the
rows, count or error that came of it. -/

namespace StatementGate

/-- The identity of the request with the given number. -/
def requestId (sequence : Nat) : String := "req-" ++ toString sequence

structure ExecutionResult where
  executed : Bool
  approved : Option Bool
  rows : Option (List Json)
  error : Option String
  rowsAffected : Option Nat
  requestId : Option String
  deriving DecidableEq

namespace ExecutionResult

def read (rows : List Json) (id : String) : ExecutionResult :=
  ⟨true, none, some rows, none, none, some id⟩

def written (rowsAffected : Nat) (id : String) : ExecutionResult :=
  ⟨true, some true, none, none, some rowsAffected, some id⟩

/-- Executed, but its rows may not be shown. -/
def withheld (error id : String) : ExecutionResult :=
  ⟨true, none, none, some error, none, some id⟩

def notExecuted (approved : Option Bool) (error : Option String) (id : String) : ExecutionResult :=
  ⟨false, approved, none, error, none, some id⟩

/-- Nothing is executed against a denial. -/
def isConsistent (r : ExecutionResult) : Bool := !(r.executed && r.approved == some false)

def encode (r : ExecutionResult) : Json :=
  .object [("approved", Json.ofOption .bool r.approved), ("error", Json.ofOptionString r.error),
    ("executed", .bool r.executed), ("requestId", Json.ofOptionString r.requestId),
    ("rows", Json.ofOption .array r.rows),
    ("rowsAffected", Json.ofOption (fun n => .int n) r.rowsAffected)]

def shape : RecordShape :=
  ⟨[("executed", .required), ("approved", .nullable), ("rows", .nullable), ("error", .nullable),
    ("rowsAffected", .defaulted), ("requestId", .defaulted)], true⟩

def decode? (j : Json) : Option ExecutionResult := do
  let record ← shape.read? j
  let executed ← record.need? "executed" Json.bool?
  let approved ← record.need? "approved" (Json.optional? Json.bool?)
  let rows ← record.need? "rows" (Json.optional? Json.array?)
  let error ← record.need? "error" (Json.optional? Json.string?)
  let rowsAffected ← record.field? "rowsAffected" (Json.optional? (Json.nat? (UInt64.size - 1))) none
  let requestId ← record.field? "requestId" (Json.optional? Json.string?) none
  pure ⟨executed, approved, rows.map (·.map Json.normalize), error, rowsAffected, requestId⟩

/-- The result that a JSON text in UTF-8 gives. Members that no result has are passed over. -/
def readBytes? (text : List UInt8) : Option ExecutionResult :=
  Json.readMembers? shape.names text >>= decode?

end ExecutionResult

end StatementGate
