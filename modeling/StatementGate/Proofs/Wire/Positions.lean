import StatementGate.Wire.Codec

/-! # Positions

Where a part of a value or of a JSON text stands: the items and fields on the way to it. Positions in
one whole are compared where they part, items by index and fields by name. -/

namespace StatementGate

inductive Step where
  | item (index : Nat)
  | field (name : String)

abbrev Position := List Step

namespace Position

/-- The path of the part that stands at this position inside what stands at `path`. -/
def under (path : String) : Position → String
  | [] => path
  | .item index :: rest => under (Path.item path index) rest
  | .field name :: rest => under (Path.child path name) rest

/-- The path by which messages name a position. -/
def path (p : Position) : String := under Path.root p

/-- The order in which parts are written. -/
inductive Before : Position → Position → Prop
  | item {i k : Nat} (h : i < k) (p q : Position) : Before (.item i :: p) (.item k :: q)
  | field {a b : String} (h : a < b) (p q : Position) : Before (.field a :: p) (.field b :: q)
  | inner (step : Step) {p q : Position} (h : Before p q) : Before (step :: p) (step :: q)

end Position

namespace Value

/-- The part of a value at a position. -/
inductive At : Value → Position → Value → Prop
  | here (v : Value) : At v [] v
  | item {items : List Value} {index : Nat} {v w : Value} {p : Position}
      (hitem : items[index]? = some v) (h : At v p w) : At (.list items) (.item index :: p) w
  | field {type : TypeName} {fields : List (String × Value)} {name : String} {v w : Value}
      {p : Position} (hfield : (name, v) ∈ fields) (h : At v p w) :
      At (.record type fields) (.field name :: p) w

/-- The records in the value have their fields in key order. -/
def Ordered (v : Value) : Prop :=
  ∀ {p type fields}, v.At p (.record type fields) → Entries.Ascending fields

theorem Ordered.item {items : List Value} (h : (list items).Ordered) {v : Value} (hmem : v ∈ items) :
    v.Ordered := by
  obtain ⟨index, hindex⟩ := List.mem_iff_getElem?.1 hmem
  exact fun hrecord => h (.item hindex hrecord)

theorem Ordered.field {type : TypeName} {fields : List (String × Value)}
    (h : (record type fields).Ordered) {name : String} {v : Value} (hmem : (name, v) ∈ fields) :
    v.Ordered :=
  fun hrecord => h (.field hmem hrecord)

end Value

/-- The part of a JSON text at a position. -/
inductive Json.At : Json → Position → Json → Prop
  | here (j : Json) : At j [] j
  | item {items : List Json} {index : Nat} {j k : Json} {p : Position}
      (hitem : items[index]? = some j) (h : At j p k) : At (.array items) (.item index :: p) k
  | field {members : List (String × Json)} {name : String} {j k : Json} {p : Position}
      (hmember : (name, j) ∈ members) (h : At j p k) :
      At (.object members) (.field name :: p) k

end StatementGate
