import StatementGate.Proofs.Lookup
import StatementGate.Proofs.Number.Decimal
import StatementGate.Wire.Value

/-! # Values up to the scale of decimals

The text of a decimal keeps its value, not its representation. Two values are the same when they
differ only there, and every value is the same as the one its texts read as. -/

namespace StatementGate

/-- The decimal that the text of `d` reads as. -/
def Decimal.reread (d : Decimal) : Decimal := (parse d.render).toOption.getD d

theorem Decimal.parse_render_reread (d : Decimal) : parse d.render = .ok d.reread := by
  obtain ⟨d', hparse, -⟩ := d.parse_render
  simp only [reread]
  rw [hparse]
  rfl

theorem Decimal.value_reread (d : Decimal) : d.reread.value = d.value := by
  obtain ⟨d', hparse, hvalue⟩ := d.parse_render
  rw [parse_render_reread] at hparse
  cases hparse
  exact hvalue

namespace Value

/-- Equality that compares decimals by their numeric value. -/
inductive Same : Value → Value → Prop
  | refl (v : Value) : Same v v
  | decimal {d d' : Decimal} (h : d.value = d'.value) : Same (.decimal d) (.decimal d')
  | list {items items' : List Value} (h : List.Forall₂ Same items items') :
      Same (.list items) (.list items')
  | record {type : TypeName} {fields fields' : List (String × Value)}
      (hkeys : fields.map Prod.fst = fields'.map Prod.fst)
      (h : List.Forall₂ Same (fields.map Prod.snd) (fields'.map Prod.snd)) :
      Same (.record type fields) (.record type fields')

theorem Same.keys {r r' : Record} (h : (ofRecord r).Same (ofRecord r')) :
    r.fields.map Prod.fst = r'.fields.map Prod.fst := by
  obtain ⟨type, fields⟩ := r
  obtain ⟨type', fields'⟩ := r'
  cases h with
  | refl => rfl
  | record hkeys _ => exact hkeys

theorem Same.ofAlike {type : TypeName} {fields fields' : List (String × Value)}
    (h : List.Forall₂ (Entries.Alike Same) fields fields') :
    (Value.record type fields).Same (.record type fields') := by
  apply Same.record
  · rw [← List.forall₂_eq_eq_eq, List.forall₂_map_left_iff, List.forall₂_map_right_iff]
    exact h.imp fun _ _ hfield => hfield.1
  · rw [List.forall₂_map_left_iff, List.forall₂_map_right_iff]
    exact h.imp fun _ _ hfield => hfield.2

mutual

/-- The value with every decimal as its text reads. -/
def reread : Value → Value
  | .decimal d => .decimal d.reread
  | .list items => .list (rereadItems items)
  | .record type fields => .record type (rereadFields fields)
  | v => v

def rereadItems : List Value → List Value
  | [] => []
  | v :: rest => reread v :: rereadItems rest

def rereadFields : List (String × Value) → List (String × Value)
  | [] => []
  | (key, v) :: rest => (key, reread v) :: rereadFields rest

end

theorem keys_rereadFields (fields : List (String × Value)) :
    (rereadFields fields).map Prod.fst = fields.map Prod.fst := by
  induction fields with
  | nil => rfl
  | cons field rest ih => exact congrArg (field.1 :: ·) ih

theorem lookup_rereadFields (fields : List (String × Value)) (key : String) :
    (rereadFields fields).lookup key = (fields.lookup key).map reread := by
  induction fields with
  | nil => rfl
  | cons field rest ih =>
    obtain ⟨k, v⟩ := field
    rw [rereadFields, List.lookup_cons, List.lookup_cons, ih]
    cases key == k <;> rfl

theorem ascending_rereadFields {fields : List (String × Value)} (h : Entries.Ascending fields) :
    Entries.Ascending (rereadFields fields) := by
  have hkeys : ((rereadFields fields).map Prod.fst).Pairwise (· < ·) := by
    rw [keys_rereadFields]
    exact List.pairwise_map.2 h
  exact List.pairwise_map.1 hkeys

mutual

theorem same_reread : (v : Value) → v.Same v.reread
  | .decimal d => .decimal d.value_reread.symm
  | .list items => .list (same_rereadItems items)
  | .record _ fields => .record (keys_rereadFields fields).symm (same_rereadFields fields)
  | .null => .refl _
  | .absent => .refl _
  | .bool _ => .refl _
  | .integer _ => .refl _
  | .float _ => .refl _
  | .string _ => .refl _
  | .dateTime _ => .refl _
  | .date _ => .refl _

theorem same_rereadItems : (items : List Value) → List.Forall₂ Same items (rereadItems items)
  | [] => .nil
  | v :: rest => .cons (same_reread v) (same_rereadItems rest)

theorem same_rereadFields : (fields : List (String × Value)) →
    List.Forall₂ Same (fields.map Prod.snd) ((rereadFields fields).map Prod.snd)
  | [] => .nil
  | (_, v) :: rest => .cons (same_reread v) (same_rereadFields rest)

end

end Value

end StatementGate
