import StatementGate.Proofs.Sanitization.Policies

/-! # What sanitizing does

A batch passes exactly when every column comes from a table with a policy and every cell under a mask
can be masked. Then each masked cell is replaced by what its mask shows, and nothing else changes. -/

namespace StatementGate

variable {classes : CharClasses}

/-- A character under the mask that keeps the format. -/
def CharClasses.Shows (classes : CharClasses) (c c' : Char) : Prop :=
  (classes.isAlphabetic c ∧ c' = 'X') ∨
    (¬classes.isAlphabetic c ∧ classes.isNumeric c ∧ c' = '0') ∨
    (¬classes.isAlphabetic c ∧ ¬classes.isNumeric c ∧ c' = c)

namespace MaskRule

/-- What a mask shows of a value. -/
inductive Shows (classes : CharClasses) : MaskRule → Value → Value → Prop
  | hidden (v : Value) : Shows classes .null v .null
  | empty (rule : MaskRule) : Shows classes rule .null .null
  | fixed (s : String) :
      Shows classes .fixed (.string s) (.string (String.ofList (List.replicate s.length '*')))
  | formed {s s' : String} (h : List.Forall₂ classes.Shows s.toList s'.toList) :
      Shows classes .preserveFormat (.string s) (.string s')

/-- The values that a mask can be applied to. -/
def Permits (rule : MaskRule) (v : Value) : Prop := v = .null ∨ (∃ s, v = .string s) ∨ rule = .null

theorem Shows.permits {rule : MaskRule} {v v' : Value} (h : rule.Shows classes v v') :
    rule.Permits v := by
  cases h with
  | hidden => exact .inr (.inr rfl)
  | empty => exact .inl rfl
  | fixed s => exact .inr (.inl ⟨s, rfl⟩)
  | @formed s => exact .inr (.inl ⟨s, rfl⟩)

theorem shows_preserveChar (c : Char) : classes.Shows c (preserveChar classes c) := by
  simp only [CharClasses.Shows, preserveChar]
  split
  · exact .inl ⟨by assumption, rfl⟩
  · split
    · exact .inr (.inl ⟨by assumption, by assumption, rfl⟩)
    · exact .inr (.inr ⟨by assumption, by assumption, rfl⟩)

theorem shows_maskText {rule : MaskRule} (h : rule ≠ .null) (s : String) :
    rule.Shows classes (.string s) (.string (rule.maskText classes s)) := by
  cases rule with
  | null => exact absurd rfl h
  | fixed =>
    have hmask : maskText classes .fixed s = String.ofList (List.replicate s.length '*') := by
      simp [maskText, String.length_toList]
    rw [hmask]
    exact .fixed s
  | preserveFormat =>
    refine .formed ?_
    rw [maskText, String.toList_ofList, List.forall₂_map_right_iff, List.forall₂_same]
    exact fun c _ => shows_preserveChar c

/-- A value that a mask permits is shown; any other is refused. -/
theorem maskValue_cases (rule : MaskRule) (column : String) (v : Value) :
    (∃ v', rule.maskValue classes column v = .ok v' ∧ rule.Shows classes v v') ∨
      (rule.maskValue classes column v = .error (.unmaskable column v.kind) ∧ ¬rule.Permits v) := by
  by_cases hrule : rule = .null
  · subst hrule
    exact .inl ⟨.null, rfl, .hidden v⟩
  · have hnull : rule.maskValue classes column .null = .ok .null := by cases rule <;> rfl
    cases v with
    | null => exact .inl ⟨.null, hnull, .empty rule⟩
    | string s => exact .inl ⟨_, maskValue_string hrule column s, shows_maskText hrule s⟩
    | _ =>
      refine .inr ⟨?_, by simp [Permits, hrule]⟩
      cases rule with
      | null => exact absurd rfl hrule
      | _ => rfl

end MaskRule

/-- What is shown of a cell that has the given mask, or none. -/
def Value.ShownUnder (classes : CharClasses) : Option MaskRule → Value → Value → Prop
  | some rule, v, v' => rule.Shows classes v v'
  | none, v, v' => v' = v

namespace SanitizerRegistry

/-- A row under masks: the same keys, and under each key what its mask shows. -/
structure RowShown (classes : CharClasses) (masks : List (String × MaskRule)) (row row' : Row) :
    Prop where
  ascending : Entries.Ascending row'
  keys_eq : row'.map Prod.fst = row.map Prod.fst
  cells : ∀ key,
    Option.Rel (Value.ShownUnder classes (masks.lookup key)) (row.lookup key) (row'.lookup key)

namespace RowShown

variable {masks : List (String × MaskRule)} {row next row' : Row} {column : String}
  {rule : MaskRule}

theorem refl (h : Entries.Ascending row) : RowShown classes [] row row := by
  refine ⟨h, rfl, fun key => ?_⟩
  cases row.lookup key with
  | none => exact .none
  | some v => exact .some rfl

theorem put {v v' : Value} (h : Entries.Ascending row) (hv : row.lookup column = some v)
    (hshows : rule.Shows classes v v') :
    RowShown classes [(column, rule)] row (Entries.put column v' row) := by
  refine ⟨h.put, ?_, fun key => ?_⟩
  · rw [Entries.keys_put_congr rfl column v' v, h.put_eq_self hv]
  · by_cases hkey : key = column
    · rw [hkey, Entries.lookup_put_self, hv, List.lookup_cons_self]
      exact .some hshows
    · rw [Entries.lookup_put_ne hkey, Entries.lookup_cons_ne hkey]
      exact (refl h).cells key

theorem missing (h : Entries.Ascending row) (hnone : row.lookup column = none) :
    RowShown classes [(column, rule)] row row := by
  refine ⟨h, rfl, fun key => ?_⟩
  by_cases hkey : key = column
  · rw [hkey, hnone]
    exact .none
  · rw [Entries.lookup_cons_ne hkey]
    exact (refl h).cells key

/-- Masks of different columns do not meet. -/
theorem trans (hfirst : RowShown classes [(column, rule)] row next)
    (hrest : RowShown classes masks next row') (hfresh : column ∉ masks.map Prod.fst) :
    RowShown classes ((column, rule) :: masks) row row' := by
  refine ⟨hrest.ascending, hrest.keys_eq.trans hfirst.keys_eq, fun key => ?_⟩
  have hcell := hfirst.cells key
  have hcell' := hrest.cells key
  by_cases hkey : key = column
  · subst hkey
    have hnone : masks.lookup key = none :=
      Option.not_isSome_iff_eq_none.1 (mt Entries.isSome_lookup_iff.1 hfresh)
    rw [List.lookup_cons_self] at hcell ⊢
    rw [hnone] at hcell'
    generalize row.lookup key = v, next.lookup key = w, row'.lookup key = v' at hcell hcell'
    cases hcell with
    | none =>
      cases hcell'
      exact .none
    | some hshows =>
      cases hcell' with
      | some heq => exact .some (heq ▸ hshows)
  · rw [Entries.lookup_cons_ne hkey] at hcell ⊢
    generalize row.lookup key = v, next.lookup key = w, row'.lookup key = v' at hcell hcell'
    cases hcell with
    | none => exact hcell'
    | @some v w heq =>
      obtain rfl : w = v := heq
      exact hcell'

end RowShown

/-- Whether a mask can be applied to what a row holds under its column. -/
def PermitsIn (row : Row) (column : String) (rule : MaskRule) : Prop :=
  ∀ v, row.lookup column = some v → rule.Permits v

variable {r : SanitizerRegistry} {masks : List (String × MaskRule)} {row row' : Row}

theorem RowShown.permitsIn (h : RowShown classes masks row row') {column : String} {rule : MaskRule}
    (hmask : masks.lookup column = some rule) : PermitsIn row column rule := by
  intro v hv
  have hcell := h.cells column
  rw [hmask, hv] at hcell
  generalize row'.lookup column = found at hcell
  cases hcell with
  | some hshows => exact hshows.permits

theorem maskColumn_cases (hrow : Entries.Ascending row) (column : String) (rule : MaskRule) :
    (∃ next, maskColumn classes row column rule = .ok next ∧
        RowShown classes [(column, rule)] row next) ∨
      ∃ e, maskColumn classes row column rule = .error e ∧ (∀ c, e ≠ .notFormatPreserving c) ∧
        ¬PermitsIn row column rule := by
  simp only [maskColumn]
  cases hv : row.lookup column with
  | none => exact .inl ⟨row, rfl, .missing hrow hv⟩
  | some v =>
    dsimp only
    rcases rule.maskValue_cases column v with ⟨v', hmask, hshows⟩ | ⟨hmask, hnot⟩
    · rw [hmask]
      exact .inl ⟨_, rfl, .put hrow hv hshows⟩
    · rw [hmask]
      exact .inr ⟨_, rfl, by simp, fun h => hnot (h v hv)⟩

/-- A row is shown as a whole, or refused for a cell that its mask does not permit. -/
theorem maskRow_cases (hrow : Entries.Ascending row) (hdistinct : (masks.map Prod.fst).Nodup) :
    (∃ row', maskRow classes masks row = .ok row' ∧ RowShown classes masks row row') ∨
      ∃ e, maskRow classes masks row = .error e ∧ (∀ c, e ≠ .notFormatPreserving c) ∧
        ∃ column rule, (column, rule) ∈ masks ∧ ¬PermitsIn row column rule := by
  induction masks generalizing row with
  | nil => exact .inl ⟨row, rfl, .refl hrow⟩
  | cons mask masks ih =>
    obtain ⟨column, rule⟩ := mask
    rw [List.map_cons, List.nodup_cons] at hdistinct
    rw [maskRow_cons]
    rcases maskColumn_cases hrow column rule with ⟨next, hnext, hfirst⟩ | ⟨e, he, hother, hnot⟩
    · rw [hnext]
      rcases ih hfirst.ascending hdistinct.2 with
        ⟨row', hok, hrest⟩ | ⟨e, he, hother, column', rule', hmem, hnot⟩
      · exact .inl ⟨row', hok, hfirst.trans hrest hdistinct.1⟩
      · refine .inr ⟨e, he, hother, column', rule', List.mem_cons_of_mem _ hmem, fun h => hnot ?_⟩
        -- the cell is still what it was before the first mask
        have hkey : column' ∈ masks.map Prod.fst := List.mem_map_of_mem hmem
        have hne : column' ≠ column := fun heq => hdistinct.1 (heq ▸ hkey)
        intro v hv
        have hcell := hfirst.cells column'
        rw [Entries.lookup_cons_ne hne, hv] at hcell
        generalize hfound : row.lookup column' = found at hcell
        cases hcell with
        | some heq => exact heq ▸ h _ hfound
    · rw [he]
      exact .inr ⟨e, rfl, hother, column, rule, List.mem_cons_self, hnot⟩

theorem rowShown_of_maskRow (hrow : Entries.Ascending row)
    (hdistinct : (masks.map Prod.fst).Nodup) (h : maskRow classes masks row = .ok row') :
    RowShown classes masks row row' := by
  rcases maskRow_cases hrow hdistinct with ⟨_, hok, hshown⟩ | ⟨e, he, _⟩
  · rw [hok] at h
    cases h
    exact hshown
  · rw [he] at h
    cases h

end SanitizerRegistry

/-- Every column has a known source under a policy, and every cell under a mask can be masked. -/
structure QueryOutput.Sanitizable (registrations : List Registration) (output : QueryOutput) :
    Prop where
  governed : ∀ origin ∈ output.columns, ∃ column policy, origin.IsUnder registrations column policy
  permitted : ∀ origin ∈ output.columns, ∀ rule, origin.IsMasked registrations rule →
    ∀ row ∈ output.rows, ∀ v, row.lookup origin.name = some v → rule.Permits v

/-- A row with the same keys, in which masked cells are replaced by what their masks show. -/
structure Row.Sanitized (classes : CharClasses) (registrations : List Registration)
    (columns : List ColumnOrigin) (row row' : Row) : Prop where
  keys_eq : row'.map Prod.fst = row.map Prod.fst
  masked : ∀ origin ∈ columns, ∀ rule, origin.IsMasked registrations rule → ∀ v v',
    row.lookup origin.name = some v → row'.lookup origin.name = some v' → rule.Shows classes v v'
  unmasked : ∀ origin ∈ columns, (∀ rule, ¬origin.IsMasked registrations rule) →
    row'.lookup origin.name = row.lookup origin.name

namespace SanitizerRegistry

variable {registrations : List Registration}

/-- Columns of different names have masks of different names. -/
theorem masks_nodup {r : SanitizerRegistry} {columns : List ColumnOrigin}
    {masks : List (Option (String × MaskRule))}
    (hm : List.Forall₂ (fun origin mask => r.mask? origin = .ok mask) columns masks)
    (hdistinct : (columns.map ColumnOrigin.name).Nodup) :
    ((masks.filterMap id).map Prod.fst).Nodup := by
  refine List.Nodup.sublist ?_ hdistinct
  clear hdistinct
  induction hm with
  | nil => exact List.Sublist.refl []
  | @cons origin mask columns masks hmask _ ih =>
    rw [mask?_eq_ok hmask]
    cases r.rule? origin with
    | none => exact ih.cons origin.name
    | some rule => exact ih.cons_cons origin.name

variable {output : QueryOutput}

theorem sanitized_of_rowShown {masks : List (String × MaskRule)} {columns : List ColumnOrigin}
    (hmasks : ∀ origin ∈ columns,
      masks.lookup origin.name = (registered classes registrations).rule? origin)
    {row row' : Row} (h : RowShown classes masks row row') :
    row.Sanitized classes registrations columns row' where
  keys_eq := h.keys_eq
  masked origin hmem rule hmasked v v' hv hv' := by
    have hcell := h.cells origin.name
    rw [hmasks origin hmem, rule?_eq_some.2 hmasked, hv, hv'] at hcell
    cases hcell with
    | some hshows => exact hshows
  unmasked origin hmem hplain := by
    have hnone : (registered classes registrations).rule? origin = none :=
      Option.eq_none_iff_forall_ne_some.2 fun rule hrule => hplain rule (rule?_eq_some.1 hrule)
    have hcell := h.cells origin.name
    rw [hmasks origin hmem, hnone] at hcell
    generalize row.lookup origin.name = v, row'.lookup origin.name = v' at hcell
    cases hcell with
    | none => rfl
    | some heq => exact congrArg some heq

section Masked

variable {masks : List (Option (String × MaskRule))}
  (hmasks : output.columns.mapM (registered classes registrations).mask? = .ok masks)
  (hdistinct : (output.columns.map ColumnOrigin.name).Nodup)
  (hfits : ∀ row ∈ output.rows, Row.Fits output.columns row)

include hmasks hdistinct

theorem lookup_registered {origin : ColumnOrigin} (hmem : origin ∈ output.columns) :
    (masks.filterMap id).lookup origin.name = (registered classes registrations).rule? origin :=
  lookup_masks (mapM_eq_ok.1 hmasks) hdistinct hmem

include hfits

theorem rowShown_of_mem {row row' : Row} (hrow : row ∈ output.rows)
    (h : maskRow classes (masks.filterMap id) row = .ok row') :
    RowShown classes (masks.filterMap id) row row' :=
  rowShown_of_maskRow (hfits row hrow).ascending (masks_nodup (mapM_eq_ok.1 hmasks) hdistinct) h

/-- A batch that passed could be sanitized. -/
theorem sanitizable_of_mapM {rows : List Row}
    (hok : output.rows.mapM (maskRow classes (masks.filterMap id)) = .ok rows) :
    output.Sanitizable registrations where
  governed origin hmem := by
    obtain ⟨mask, hmask⟩ := exists_of_mapM hmasks hmem
    rcases mask?_cases classes registrations origin with ⟨_, _, hgoverned⟩ | ⟨e, he, _⟩
    · exact hgoverned
    · rw [hmask] at he
      cases he
  permitted origin hmem rule hmasked row hrow := by
    obtain ⟨row', hrow'⟩ := exists_of_mapM hok hrow
    have hrule := (lookup_registered hmasks hdistinct hmem).trans (rule?_eq_some.2 hmasked)
    exact (rowShown_of_mem hmasks hdistinct hfits hrow hrow').permitsIn hrule

/-- A row that is refused has a cell that cannot be masked. -/
theorem not_sanitizable_of_maskRow {row : Row} (hrow : row ∈ output.rows) {e : SanitizeError}
    (he : maskRow classes (masks.filterMap id) row = .error e) :
    (∀ column, e ≠ .notFormatPreserving column) ∧ ¬output.Sanitizable registrations := by
  have hnodup := masks_nodup (mapM_eq_ok.1 hmasks) hdistinct
  rcases maskRow_cases (hfits row hrow).ascending hnodup with
    ⟨row', hrow', _⟩ | ⟨_, he', hother, column, rule, hmask, hnot⟩
  · rw [he] at hrow'
    cases hrow'
  · rw [he] at he'
    cases he'
    refine ⟨hother, fun h => hnot ?_⟩
    -- the mask is that of a column of the output
    obtain ⟨_, hmask, rfl⟩ := List.mem_filterMap.1 hmask
    obtain ⟨origin, hmem, horigin⟩ := exists_of_mem_mapM hmasks hmask
    obtain ⟨_, hrule, heq⟩ := Option.map_eq_some_iff.1 (mask?_eq_ok horigin).symm
    cases heq
    exact h.permitted origin hmem rule (rule?_eq_some.1 hrule) row hrow

end Masked

/-- A batch with rows passes with every row sanitized, or it cannot be sanitized and is refused. -/
theorem sanitize_cases (classes : CharClasses) (registrations : List Registration) (hrows : output.rows ≠ [])
    (hdistinct : (output.columns.map ColumnOrigin.name).Nodup)
    (hfits : ∀ row ∈ output.rows, Row.Fits output.columns row) :
    (∃ rows, (registered classes registrations).sanitize output = .ok rows ∧
        output.Sanitizable registrations ∧
        List.Forall₂ (Row.Sanitized classes registrations output.columns) output.rows rows) ∨
      ∃ e, (registered classes registrations).sanitize output = .error e ∧
        (∀ column, e ≠ .notFormatPreserving column) ∧ ¬output.Sanitizable registrations := by
  rw [sanitize, if_neg (by simpa using hrows), classes_registered]
  rcases mapM_cases (registered classes registrations).mask? output.columns with
    ⟨masks, hmasks⟩ | ⟨origin, hmem, e, he, hfails⟩
  · rw [hmasks]
    rcases mapM_cases (maskRow classes (masks.filterMap id)) output.rows with
      ⟨rows, hok⟩ | ⟨row, hrow, e, he, hfails⟩
    · refine .inl ⟨rows, hok, sanitizable_of_mapM hmasks hdistinct hfits hok, ?_⟩
      have hall := (List.forall₂_and_left _ _).2 ⟨fun _ hrow => hrow, mapM_eq_ok.1 hok⟩
      exact hall.imp fun row row' h => sanitized_of_rowShown
        (fun _ => lookup_registered hmasks hdistinct) (rowShown_of_mem hmasks hdistinct hfits h.1 h.2)
    · exact .inr ⟨e, hfails, not_sanitizable_of_maskRow hmasks hdistinct hfits hrow he⟩
  · rw [hfails]
    rcases mask?_cases classes registrations origin with ⟨_, hmask, _⟩ | ⟨_, he', hother, hnot⟩
    · rw [he] at hmask
      cases hmask
    · rw [he] at he'
      cases he'
      exact .inr ⟨e, rfl, hother, fun h => hnot (h.governed origin hmem)⟩

/-- Sanitizing is exact: an empty batch passes as it is. Any other passes if and only if every column
comes from a table with a policy and every cell under a mask can be masked; then exactly the masked
cells are replaced by what their masks show, whatever characters count as letters and as numeric.
Otherwise no row is returned, and a mask that does not keep the format is never the reason. -/
theorem sanitize_exact (classes : CharClasses) (registrations : List Registration)
    (output : QueryOutput)
    (hdistinct : (output.columns.map ColumnOrigin.name).Nodup)
    (hfits : ∀ row ∈ output.rows, Row.Fits output.columns row) :
    (output.rows = [] → (registered classes registrations).sanitize output = .ok []) ∧
      (output.rows ≠ [] →
        ((∃ rows, (registered classes registrations).sanitize output = .ok rows) ↔
          output.Sanitizable registrations)) ∧
      (∀ rows, (registered classes registrations).sanitize output = .ok rows →
        List.Forall₂ (Row.Sanitized classes registrations output.columns) output.rows rows) ∧
      ∀ column,
        (registered classes registrations).sanitize output ≠ .error (.notFormatPreserving column) := by
  by_cases hrows : output.rows = []
  · have hempty : (registered classes registrations).sanitize output = .ok [] := by
      rw [sanitize, hrows]
      rfl
    rw [hempty, hrows]
    refine ⟨fun _ => rfl, fun h => absurd rfl h, fun rows h => ?_, by simp⟩
    cases h
    exact .nil
  · refine ⟨fun h => absurd h hrows, fun _ => ?_, ?_⟩
    all_goals
      rcases sanitize_cases classes registrations hrows hdistinct hfits with
        ⟨rows, hok, hsanitizable, hrows'⟩ | ⟨e, he, hother, hnot⟩
    · exact iff_of_true ⟨rows, hok⟩ hsanitizable
    · rw [he]
      exact iff_of_false (by simp) hnot
    · rw [hok]
      refine ⟨fun rows h => ?_, by simp⟩
      cases h
      exact hrows'
    · rw [he]
      refine ⟨by simp, fun column h => hother column ?_⟩
      cases h
      rfl

/-- What staff may see: no addresses, and names by their form only. -/
def staff : List Registration :=
  [("people", .passThrough), ("orders", .passThrough),
    ("People", .columnMask (KeyMap.ofList [("Name", .preserveFormat), ("email", .fixed)]))]

/-- Orders beside the people who placed them, under other names. -/
def orders : QueryOutput where
  columns := [⟨"contact", some "PEOPLE", some "EMAIL"⟩, ⟨"total", some "Orders", some "total"⟩,
    ⟨"who", some "people", some "name"⟩]
  rows := [[("contact", .string "a@b"), ("total", .integer 12), ("who", .string "Zoé 2")],
    [("contact", .null), ("total", .string "free"), ("who", .string "𮯰Ᲊ𐵀")]]

def maskedOrders : List Row :=
  [[("contact", .string "***"), ("total", .integer 12), ("who", .string "XXX 0")],
    [("contact", .null), ("total", .string "free"), ("who", .string "XX0")]]

set_option maxRecDepth 20000 in
theorem sanitize_orders : (registered .unicode17 staff).sanitize orders = .ok maskedOrders := rfl

theorem orders_fit : ∀ row ∈ orders.rows, Row.Fits orders.columns row := by
  have hkeys : ["contact", "total", "who"].Pairwise (· < ·) := by decide
  intro row hrow
  rcases List.mem_pair.1 hrow with rfl | rfl
  all_goals exact ⟨List.pairwise_map.1 hkeys, fun key => by simp [orders]⟩

/-- The policy registered last is the one that counts, and columns are masked by their sources. -/
theorem orders_exact :
    (orders.columns.map ColumnOrigin.name).Nodup ∧
      (∀ row ∈ orders.rows, Row.Fits orders.columns row) ∧ orders.Sanitizable staff ∧
      (registered .unicode17 staff).sanitize orders = .ok maskedOrders ∧
      List.Forall₂ (Row.Sanitized .unicode17 staff orders.columns) orders.rows maskedOrders := by
  have hdistinct : (orders.columns.map ColumnOrigin.name).Nodup := by decide
  obtain ⟨_, hiff, hrows, _⟩ := sanitize_exact .unicode17 staff orders hdistinct orders_fit
  exact ⟨hdistinct, orders_fit, (hiff (List.cons_ne_nil _ _)).1 ⟨_, sanitize_orders⟩,
    sanitize_orders, hrows _ sanitize_orders⟩

end SanitizerRegistry

end StatementGate
