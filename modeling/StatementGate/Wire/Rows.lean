import StatementGate.Wire.Codec

/-! # Result rows

The rows of a read as one value: all of them where a list is asked for, else the only one. -/

namespace StatementGate

inductive RowsError where
  | codec (cause : CodecError)
  | tooManyRows (count : Nat)

namespace RowsError

def message : RowsError → String
  | .codec cause => cause.message
  | .tooManyRows count => s!"expected at most one row, gateway returned {count}"

end RowsError

def Descriptor.takesAllRows : Descriptor → Bool
  | .list _ => true
  | .optional (.list _) => true
  | _ => false

def decodeRows (registry : Registry) (rows : List Json) (d : Descriptor) :
    Except RowsError Value :=
  if d.takesAllRows then (decode registry (.array rows) d).mapError .codec
  else
    match rows with
    | [] => (decodeMissing d).mapError .codec
    | [row] => (decode registry row d).mapError .codec
    | rows => .error (.tooManyRows rows.length)

end StatementGate
