import StatementGate.Wire.Registry

/-! # JSON and wire values

`Value.encode` writes a value as JSON, `decode` reads JSON against a descriptor. An absent field of
a record is left out; elsewhere absence is written as a mark, which reads as absent against every
descriptor. Both stop at the first error. -/

namespace StatementGate

open CodecError (invalid)

namespace Value

mutual

def encodeAt : Value → (path : String) → Except CodecError Json
  | .null, _ => .ok .null
  | .absent, _ => .ok (.string absentMark)
  | .bool b, _ => .ok (.bool b)
  | .integer i, _ => .ok (.int i.toInt)
  | .float x, path => if x.isFinite then .ok (.number (.float x)) else .error (invalid path .notFinite)
  | .string s, _ => .ok (.string s)
  | .decimal d, _ => .ok (.string d.render)
  | .dateTime t, path =>
    match t.render with
    | .ok text => .ok (.string text)
    | .error cause => .error (invalid path (.unformattable cause))
  | .date d, _ => .ok (.string d.render)
  | .list items, path => do pure (.array (← encodeItems items 0 path))
  | .record _ fields, path => do pure (.object (← encodeFields fields path))

def encodeItems : List Value → (index : Nat) → (path : String) → Except CodecError (List Json)
  | [], _, _ => .ok []
  | v :: rest, index, path => do
    let j ← encodeAt v (Path.item path index)
    pure (j :: (← encodeItems rest (index + 1) path))

def encodeFields : List (String × Value) → (path : String) →
    Except CodecError (List (String × Json))
  | [], _ => .ok []
  | (key, v) :: rest, path =>
    if v.isAbsent then encodeFields rest path
    else do
      let j ← encodeAt v (Path.child path key)
      pure ((key, j) :: (← encodeFields rest path))

end

def encode (v : Value) : Except CodecError Json := v.encodeAt Path.root

end Value

/-- A row as a JSON object without its absent columns. -/
def Row.encode (row : Row) : Except CodecError Json := do
  pure (.object (← Value.encodeFields row Path.root))

def mismatch (path : String) (d : Descriptor) (j : Json) : CodecError :=
  invalid path (.mismatch d.render j.kind)

def decodeDecimal (text : String) (path : String) : Except CodecError Value :=
  match Decimal.parse text with
  | .ok d => .ok (.decimal d)
  | .error cause => .error (invalid path (.decimal cause))

/-- Whether an integer has 64 bits. -/
def fitsInt64 (i : Int) : Bool := decide (-9223372036854775808 ≤ i ∧ i ≤ 9223372036854775807)

def decodeScalar (j : Json) (kind : ScalarKind) (path : String) : Except CodecError Value :=
  match kind, j with
  | .null, .null => .ok .null
  | .string, .string s => .ok (.string s)
  | .boolean, .bool b => .ok (.bool b)
  | .integer, .number (.int i) =>
    if fitsInt64 i then .ok (.integer (Int64.ofInt i)) else .error (invalid path (.notInteger (.int i)))
  | .integer, .number (.float x) => .error (invalid path (.notInteger (.float x)))
  | .float, .number (.int i) => .ok (.float (Binary64.ofInt i))
  | .float, .number (.float x) => .ok (.float x)
  | .decimal, .string s => decodeDecimal s path
  | .decimal, .number n => decodeDecimal (n.render .plain) path
  | .dateTime, .string s =>
    match DateTime.parse s with
    | .ok t => .ok (.dateTime t)
    | .error cause => .error (invalid path (.dateTime cause))
  | .date, .string s =>
    match Date.parse s with
    | .ok d => .ok (.date d)
    | .error cause => .error (invalid path (.date cause))
  | kind, j => .error (mismatch path (.scalar kind) j)

theorem sizeOf_lt_of_lookup {members : List (String × Json)} {key : String} {j : Json}
    (h : members.lookup key = some j) : sizeOf j < sizeOf members := by
  induction members with
  | nil => simp at h
  | cons member rest ih =>
    obtain ⟨k, v⟩ := member
    simp only [List.lookup_cons] at h
    split at h
    · cases h
      simp
      omega
    · have := ih h
      simp
      omega

mutual

/-- Reads the value at `path`. -/
def decodeAt (registry : Registry) (j : Json) (d : Descriptor) (path : String) :
    Except CodecError Value :=
  if j = .string absentMark then .ok .absent
  else
    match d with
    | .scalar kind => decodeScalar j kind path
    | .optional inner =>
      match j with
      | .null => .ok .null
      | j => decodeAt registry j inner path
    | .list item =>
      match j with
      | .array items => do pure (.list (← decodeItems registry items item 0 path))
      | j => .error (mismatch path (.list item) j)
    | .union alternatives => decodeUnion registry j (.union alternatives) alternatives [] path
    | .named type =>
      match registry.lookup type with
      | none => .error (.unregistered type)
      | some schema =>
        match j with
        | .object members => do
          let fields ← decodeFields registry members schema.fields [] path
          match schema.construct with
          | none => pure (.record type fields)
          | some check =>
            match check ⟨type, fields⟩ with
            | .ok () => pure (.record type fields)
            | .error reason => .error (invalid path (.refused reason))
        | j => .error (invalid path (.mismatch s!"object for {type.name}" j.kind))
termination_by (sizeOf j, sizeOf d)

def decodeItems (registry : Registry) (items : List Json) (d : Descriptor) (index : Nat)
    (path : String) : Except CodecError (List Value) :=
  match items with
  | [] => .ok []
  | j :: rest => do
    let v ← decodeAt registry j d (Path.item path index)
    pure (v :: (← decodeItems registry rest d (index + 1) path))
termination_by (sizeOf items, 0)

/-- The first alternative that fits; an unknown type ends the search. -/
def decodeUnion (registry : Registry) (j : Json) (union : Descriptor)
    (alternatives : List Descriptor) (reasons : List (Descriptor × Problem)) (path : String) :
    Except CodecError Value :=
  match alternatives with
  | [] => .error (invalid path (.noAlternative union reasons.reverse))
  | d :: rest =>
    match decodeAt registry j d path with
    | .ok v => .ok v
    | .error (.invalid _ problem) =>
      decodeUnion registry j union rest ((d, problem) :: reasons) path
    | .error error => .error error
termination_by (sizeOf j, sizeOf alternatives)

/-- The fields of a record in declaration order, added to those already read. -/
def decodeFields (registry : Registry) (members : List (String × Json))
    (fields : List FieldSchema) (read : List (String × Value)) (path : String) :
    Except CodecError (List (String × Value)) :=
  match fields with
  | [] => .ok read
  | field :: rest =>
    match _h : members.lookup field.name with
    | some j => do
      let v ← decodeAt registry j field.descriptor (Path.child path field.name)
      decodeFields registry members rest (Entries.put field.name v read) path
    | none =>
      if field.required then .error (invalid (Path.child path field.name) .missing)
      else decodeFields registry members rest (Entries.put field.name .absent read) path
termination_by (sizeOf members, sizeOf fields)
decreasing_by
  · have smaller := sizeOf_lt_of_lookup _h
    simp_wf
    omega
  · simp_wf
    omega
  · simp_wf
    omega

end

def decode (registry : Registry) (j : Json) (d : Descriptor) : Except CodecError Value :=
  decodeAt registry j d Path.root

def decodeText (registry : Registry) (j : Json) (text space : String) : Except CodecError Value :=
  match Descriptor.parse text space with
  | .ok d => decode registry j d
  | .error cause => .error (.descriptor cause)

/-- What stands for a value when there is none: absence where a descriptor offers it, else null. -/
def decodeMissing (d : Descriptor) : Except CodecError Value :=
  let offersAbsence := match d with
    | .scalar .absent => true
    | .union alternatives => alternatives.contains (.scalar .absent)
    | _ => false
  if offersAbsence then .ok .absent
  else if d.acceptsNull then .ok .null
  else .error (invalid Path.root (.mismatch d.render "nothing"))

end StatementGate
