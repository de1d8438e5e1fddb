import StatementGate.Proofs.Lookup
import StatementGate.Proofs.Outcome
import StatementGate.Sanitization

/-! # What masks hide

Two outputs are alike when they differ only in cells that a mask rule covers, and there only in
what the rule hides. Alike outputs are sanitized to the same rows, or refused for the same
reason. -/

namespace StatementGate

variable {classes : CharClasses}

namespace CharClasses

/-- Two characters that a format-preserving mask shows alike. -/
def SameForm (classes : CharClasses) (c c' : Char) : Prop :=
  (classes.isAlphabetic c ∧ classes.isAlphabetic c') ∨
    (classes.isNumeric c ∧ ¬classes.isAlphabetic c ∧
      classes.isNumeric c' ∧ ¬classes.isAlphabetic c') ∨ c = c'

instance (c c' : Char) : Decidable (classes.SameForm c c') :=
  inferInstanceAs (Decidable (_ ∨ _ ∨ _))

end CharClasses

namespace MaskRule

/-- The values that a rule does not tell apart. -/
def Hides (classes : CharClasses) : MaskRule → Value → Value → Prop
  | .null, _, _ => True
  | .fixed, .string s, .string s' => s.length = s'.length
  | .preserveFormat, .string s, .string s' => List.Forall₂ classes.SameForm s.toList s'.toList
  | _, _, _ => False

theorem preserveChar_eq {c c' : Char} (h : classes.SameForm c c') :
    preserveChar classes c = preserveChar classes c' := by
  simp only [preserveChar]
  rcases h with ⟨hc, hc'⟩ | ⟨hc, hnot, hc', hnot'⟩ | rfl
  · rw [if_pos hc, if_pos hc']
  · rw [if_neg hnot, if_pos hc, if_neg hnot', if_pos hc']
  · rfl

theorem maskText_fixed {s s' : String} (h : s.length = s'.length) :
    maskText classes .fixed s = maskText classes .fixed s' := by
  simp only [maskText]
  simp only [reduceIte, List.map_const', String.length_toList]
  rw [h]

theorem map_preserveChar {cs cs' : List Char} (h : List.Forall₂ classes.SameForm cs cs') :
    cs.map (preserveChar classes) = cs'.map (preserveChar classes) := by
  induction h with
  | nil => rfl
  | cons hc _ ih => rw [List.map_cons, List.map_cons, preserveChar_eq hc, ih]

theorem maskText_preserveFormat {s s' : String}
    (h : List.Forall₂ classes.SameForm s.toList s'.toList) :
    maskText classes .preserveFormat s = maskText classes .preserveFormat s' :=
  congrArg String.ofList (map_preserveChar h)

/-- Masks keep the number of characters, so none is refused for changing it. -/
theorem length_maskText (rule : MaskRule) (s : String) :
    (rule.maskText classes s).length = s.length := by
  simp [maskText, String.length_toList]

theorem maskValue_string {rule : MaskRule} (h : rule ≠ .null) (column s : String) :
    rule.maskValue classes column (.string s) = .ok (.string (rule.maskText classes s)) := by
  cases rule with
  | null => exact absurd rfl h
  | fixed => exact if_pos (length_maskText _ _)
  | preserveFormat => exact if_pos (length_maskText _ _)

theorem maskValue_eq {rule : MaskRule} {v v' : Value} (h : rule.Hides classes v v')
    (column : String) : rule.maskValue classes column v = rule.maskValue classes column v' := by
  simp only [Hides] at h
  split at h
  · rfl
  · rw [maskValue_string (by decide), maskValue_string (by decide), maskText_fixed h]
  · rw [maskValue_string (by decide), maskValue_string (by decide), maskText_preserveFormat h]
  · exact h.elim

end MaskRule

/-- Two cells of a column that has the given rule, or none. -/
def Value.Alike (classes : CharClasses) (rule? : Option MaskRule) (v v' : Value) : Prop :=
  v = v' ∨ ∃ rule, rule? = some rule ∧ rule.Hides classes v v'

theorem Value.Alike.maskValue_eq {rule : MaskRule} {v v' : Value}
    (h : Value.Alike classes (some rule) v v') (column : String) :
    rule.maskValue classes column v = rule.maskValue classes column v' := by
  rcases h with rfl | ⟨_, hrule, hides⟩
  · rfl
  · cases hrule
    exact MaskRule.maskValue_eq hides column

namespace SanitizerRegistry

/-- Rows in which every key finds alike cells, by the first mask that still stands for it. -/
structure RowsAlike (classes : CharClasses) (masks : List (String × MaskRule)) (row row' : Row) :
    Prop where
  ascending : Entries.Ascending row
  ascending' : Entries.Ascending row'
  cells : ∀ key,
    Option.Rel (Value.Alike classes (masks.lookup key)) (row.lookup key) (row'.lookup key)

theorem maskRow_cons (column : String) (rule : MaskRule) (masks : List (String × MaskRule))
    (row : Row) :
    maskRow classes ((column, rule) :: masks) row =
      maskColumn classes row column rule >>= maskRow classes masks := by
  rw [maskRow, List.foldlM_cons]
  rfl

namespace RowsAlike

variable {masks : List (String × MaskRule)} {row row' : Row}

/-- Rows alike under no mask are the same row. -/
theorem eq (h : RowsAlike classes [] row row') : row = row' := by
  refine h.ascending.ext h.ascending' fun key => ?_
  have hcell := h.cells key
  generalize row.lookup key = found, row'.lookup key = found' at hcell
  cases hcell with
  | none => rfl
  | some halike =>
    rcases halike with rfl | ⟨_, hrule, _⟩
    · rfl
    · cases hrule

/-- A mask that is applied to alike rows fails for both, or leaves rows alike under the rest. -/
theorem maskColumn {column : String} {rule : MaskRule}
    (h : RowsAlike classes ((column, rule) :: masks) row row') :
    (∃ e, SanitizerRegistry.maskColumn classes row column rule = .error e ∧
        SanitizerRegistry.maskColumn classes row' column rule = .error e) ∨
      ∃ next next', SanitizerRegistry.maskColumn classes row column rule = .ok next ∧
        SanitizerRegistry.maskColumn classes row' column rule = .ok next' ∧
        RowsAlike classes masks next next' := by
  have hother : ∀ key, key ≠ column →
      Option.Rel (Value.Alike classes (masks.lookup key)) (row.lookup key) (row'.lookup key) := by
    intro key hkey
    have := h.cells key
    rwa [Entries.lookup_cons_ne hkey] at this
  have hcell := h.cells column
  rw [List.lookup_cons_self] at hcell
  simp only [SanitizerRegistry.maskColumn]
  generalize hv : row.lookup column = found, hv' : row'.lookup column = found' at hcell
  cases hcell with
  | none =>
    refine .inr ⟨row, row', rfl, rfl, h.ascending, h.ascending', fun key => ?_⟩
    by_cases hkey : key = column
    · rw [hkey, hv, hv']
      exact .none
    · exact hother key hkey
  | some halike =>
    simp only [halike.maskValue_eq column]
    generalize rule.maskValue classes column _ = masked
    cases masked with
    | error e => exact .inl ⟨e, rfl, rfl⟩
    | ok v =>
      refine .inr ⟨_, _, rfl, rfl, h.ascending.put, h.ascending'.put, fun key => ?_⟩
      by_cases hkey : key = column
      · rw [hkey, Entries.lookup_put_self, Entries.lookup_put_self]
        exact .some (.inl rfl)
      · rw [Entries.lookup_put_ne hkey, Entries.lookup_put_ne hkey]
        exact hother key hkey

theorem maskRow (h : RowsAlike classes masks row row') :
    SanitizerRegistry.maskRow classes masks row = SanitizerRegistry.maskRow classes masks row' := by
  induction masks generalizing row row' with
  | nil => rw [h.eq]
  | cons mask masks ih =>
    obtain ⟨column, rule⟩ := mask
    rw [maskRow_cons, maskRow_cons]
    rcases h.maskColumn with ⟨e, he, he'⟩ | ⟨next, next', hnext, hnext', halike⟩
    · rw [he, he']
    · rw [hnext, hnext']
      exact ih halike

end RowsAlike

/-- The rule of the source that a column has, if there is one. -/
def rule? (r : SanitizerRegistry) (origin : ColumnOrigin) : Option MaskRule := do
  let table ← origin.table
  let column ← origin.column
  (← r.policy? table).rule? column

theorem mask?_eq_ok {r : SanitizerRegistry} {origin : ColumnOrigin}
    {mask : Option (String × MaskRule)} (h : r.mask? origin = .ok mask) :
    mask = (r.rule? origin).map fun rule => (origin.name, rule) := by
  simp only [mask?] at h
  split at h
  · rename_i table column htable hcolumn
    split at h
    · cases h
    · rename_i policy hpolicy
      cases h
      simp [rule?, htable, hcolumn, hpolicy]
  · cases h

theorem lookup_masks_of_not_mem {r : SanitizerRegistry} {columns : List ColumnOrigin}
    {masks : List (Option (String × MaskRule))}
    (hm : List.Forall₂ (fun origin mask => r.mask? origin = .ok mask) columns masks)
    {key : String} (hkey : key ∉ columns.map ColumnOrigin.name) :
    (masks.filterMap id).lookup key = none := by
  induction hm with
  | nil => rfl
  | @cons head mask columns masks hmask _ ih =>
    rw [List.map_cons, List.mem_cons, not_or] at hkey
    rw [mask?_eq_ok hmask]
    cases r.rule? head with
    | none => exact ih hkey.2
    | some rule => exact (Entries.lookup_cons_ne hkey.1 rule _).trans (ih hkey.2)

/-- Under the name of a column stands the mask of its own source, whatever it is called. -/
theorem lookup_masks {r : SanitizerRegistry} {columns : List ColumnOrigin}
    {masks : List (Option (String × MaskRule))}
    (hm : List.Forall₂ (fun origin mask => r.mask? origin = .ok mask) columns masks)
    (hdistinct : (columns.map ColumnOrigin.name).Nodup) {origin : ColumnOrigin}
    (hmem : origin ∈ columns) : (masks.filterMap id).lookup origin.name = r.rule? origin := by
  induction hm with
  | nil => cases hmem
  | @cons head mask columns masks hmask hrest ih =>
    rw [List.map_cons, List.nodup_cons] at hdistinct
    rw [mask?_eq_ok hmask]
    rcases List.mem_cons.1 hmem with rfl | hmem
    · cases r.rule? origin with
      | none => exact lookup_masks_of_not_mem hrest hdistinct.1
      | some rule => exact List.lookup_cons_self
    · have hne : origin.name ≠ head.name := fun heq =>
        hdistinct.1 (heq ▸ List.mem_map_of_mem hmem)
      cases r.rule? head with
      | none => exact ih hdistinct.2 hmem
      | some rule => exact (Entries.lookup_cons_ne hne rule _).trans (ih hdistinct.2 hmem)

end SanitizerRegistry

/-- A row with one cell for each column, under the column's name. -/
structure Row.Fits (columns : List ColumnOrigin) (row : Row) : Prop where
  ascending : Entries.Ascending row
  keys : ∀ key, key ∈ row.map Prod.fst ↔ key ∈ columns.map ColumnOrigin.name

/-- Rows that differ at most in what the rules of their columns hide. -/
def Row.Alike (r : SanitizerRegistry) (columns : List ColumnOrigin) (row row' : Row) : Prop :=
  ∀ origin ∈ columns, ∀ v v', row.lookup origin.name = some v →
    row'.lookup origin.name = some v' → Value.Alike r.classes (r.rule? origin) v v'

/-- Outputs of the same columns and as many rows, whose corresponding cells are alike. -/
structure QueryOutput.Alike (r : SanitizerRegistry) (o o' : QueryOutput) : Prop where
  columns_eq : o.columns = o'.columns
  distinct : (o.columns.map ColumnOrigin.name).Nodup
  fits : ∀ row ∈ o.rows, Row.Fits o.columns row
  fits' : ∀ row ∈ o'.rows, Row.Fits o.columns row
  rows : List.Forall₂ (Row.Alike r o.columns) o.rows o'.rows

namespace SanitizerRegistry

variable {r : SanitizerRegistry}

theorem rowsAlike_masks {columns : List ColumnOrigin} {masks : List (Option (String × MaskRule))}
    (hm : columns.mapM r.mask? = .ok masks) (hdistinct : (columns.map ColumnOrigin.name).Nodup)
    {row row' : Row} (hrow : row.Fits columns) (hrow' : row'.Fits columns)
    (h : Row.Alike r columns row row') : RowsAlike r.classes (masks.filterMap id) row row' := by
  refine ⟨hrow.ascending, hrow'.ascending, fun key => ?_⟩
  have hsame : (row.lookup key).isSome ↔ (row'.lookup key).isSome := by
    rw [Entries.isSome_lookup_iff, Entries.isSome_lookup_iff, hrow.keys, hrow'.keys]
  cases hv : row.lookup key with
  | none =>
    cases hv' : row'.lookup key with
    | none => exact .none
    | some v' => simp [hv, hv'] at hsame
  | some v =>
    cases hv' : row'.lookup key with
    | none => simp [hv, hv'] at hsame
    | some v' =>
      have hkey : key ∈ row.map Prod.fst := Entries.isSome_lookup_iff.1 (by rw [hv]; rfl)
      obtain ⟨origin, hmem, rfl⟩ := List.mem_map.1 ((hrow.keys key).1 hkey)
      rw [lookup_masks (mapM_eq_ok.1 hm) hdistinct hmem]
      exact .some (h origin hmem v v' hv hv')

/-- Alike outputs are sanitized to the same rows or refused for the same reason. -/
theorem sanitize_eq {o o' : QueryOutput} (h : o.Alike r o') : r.sanitize o = r.sanitize o' := by
  obtain ⟨columns, rows⟩ := o
  obtain ⟨_, rows'⟩ := o'
  obtain ⟨rfl, hdistinct, hfits, hfits', hrows⟩ := h
  have hempty : rows.isEmpty = rows'.isEmpty := by
    cases hrows <;> rfl
  simp only [sanitize]
  simp only [hempty]
  split
  · rfl
  · cases hm : columns.mapM r.mask? with
    | error e => rfl
    | ok masks =>
      refine mapM_congr (List.forall₂_iff_get.2 ⟨hrows.length_eq, fun i hi hi' => ?_⟩)
      exact (rowsAlike_masks hm hdistinct (hfits _ (List.get_mem _ _))
        (hfits' _ (List.get_mem _ _)) (hrows.get hi hi')).maskRow

end SanitizerRegistry

end StatementGate
