import StatementGate.Proofs.Sanitization.Policies

/-! # Sanitizing twice

A mask shows what it has shown as it is, and no other mask makes it show that otherwise. So every mask
of a row finds its cell as it left it, even if several are for one cell, and a sanitized batch is
sanitized to itself. -/

namespace StatementGate

variable {classes : CharClasses}

namespace MaskRule

/-- The character that a mask shows for another. -/
def maskChar (classes : CharClasses) (rule : MaskRule) (c : Char) : Char :=
  if rule = .fixed then '*' else preserveChar classes c

theorem preserveChar_letter : preserveChar classes 'X' = 'X' := if_pos classes.letter

theorem preserveChar_digit : preserveChar classes '0' = '0' := by
  simp [preserveChar, classes.digit]

theorem preserveChar_star : preserveChar classes '*' = '*' := by
  simp [preserveChar, classes.star]

theorem preserveChar_idempotent (c : Char) :
    preserveChar classes (preserveChar classes c) = preserveChar classes c := by
  by_cases hletter : classes.isAlphabetic c = true
  · rw [show preserveChar classes c = 'X' from if_pos hletter]
    exact preserveChar_letter
  · by_cases hdigit : classes.isNumeric c = true
    · rw [show preserveChar classes c = '0' from (if_neg hletter).trans (if_pos hdigit)]
      exact preserveChar_digit
    · have hsame : preserveChar classes c = c := (if_neg hletter).trans (if_neg hdigit)
      rw [hsame, hsame]

theorem maskChar_fixed (c : Char) : maskChar classes .fixed c = '*' := if_pos rfl

theorem maskChar_of_ne {rule : MaskRule} (h : rule ≠ .fixed) (c : Char) :
    rule.maskChar classes c = preserveChar classes c := if_neg h

theorem maskChar_star (rule : MaskRule) : rule.maskChar classes '*' = '*' := by
  rw [maskChar, preserveChar_star, ite_self]

theorem maskChar_idempotent (rule : MaskRule) (c : Char) :
    rule.maskChar classes (rule.maskChar classes c) = rule.maskChar classes c := by
  by_cases hrule : rule = .fixed
  · rw [hrule, maskChar_fixed, maskChar_fixed]
  · rw [maskChar_of_ne hrule, maskChar_of_ne hrule, preserveChar_idempotent]

/-- What a mask shows as it is, it still does behind another mask. -/
theorem maskChar_kept {rule : MaskRule} {c : Char} (h : rule.maskChar classes c = c)
    (other : MaskRule) :
    rule.maskChar classes (other.maskChar classes c) = other.maskChar classes c := by
  by_cases hother : other = .fixed
  · rw [hother, maskChar_fixed, maskChar_star]
  · by_cases hrule : rule = .fixed
    · rw [hrule, maskChar_fixed] at h
      rw [← h, maskChar_star, maskChar_star]
    · rw [maskChar_of_ne hother, maskChar_of_ne hrule, preserveChar_idempotent]

theorem toList_maskText (rule : MaskRule) (s : String) :
    (rule.maskText classes s).toList = s.toList.map (rule.maskChar classes) := by
  rw [maskText, String.toList_ofList]
  rfl

theorem maskText_eq_self_iff {rule : MaskRule} {s : String} :
    rule.maskText classes s = s ↔ ∀ c ∈ s.toList, rule.maskChar classes c = c := by
  rw [← String.toList_inj, toList_maskText]
  nth_rewrite 2 [← List.map_id s.toList]
  exact List.map_inj_left

theorem maskText_idempotent (rule : MaskRule) (s : String) :
    rule.maskText classes (rule.maskText classes s) = rule.maskText classes s := by
  rw [maskText_eq_self_iff, toList_maskText]
  exact List.forall_mem_map.2 fun c _ => rule.maskChar_idempotent c

theorem maskText_kept {rule : MaskRule} {s : String} (h : rule.maskText classes s = s)
    (other : MaskRule) :
    rule.maskText classes (other.maskText classes s) = other.maskText classes s := by
  rw [maskText_eq_self_iff] at h ⊢
  rw [toList_maskText]
  exact List.forall_mem_map.2 fun c hc => maskChar_kept (h c hc) other

/-- A mask gives null or a text: null for anything under the null mask, and for null. -/
theorem maskValue_eq_ok {rule : MaskRule} {column : String} {v v' : Value} :
    rule.maskValue classes column v = .ok v' ↔
      ((rule = .null ∨ v = .null) ∧ v' = .null) ∨
        rule ≠ .null ∧ ∃ s, v = .string s ∧ v' = .string (rule.maskText classes s) := by
  by_cases hrule : rule = .null
  · subst hrule
    simp [maskValue, eq_comm]
  · cases v with
    | null => cases rule <;> simp_all [maskValue, eq_comm]
    | string s =>
      rw [maskValue_string hrule]
      simp [hrule, eq_comm]
    | _ => cases rule <;> simp_all [maskValue]

/-- What a mask shows, it shows as it is. -/
theorem maskValue_idempotent {rule : MaskRule} {column : String} {v v' : Value}
    (h : rule.maskValue classes column v = .ok v') :
    rule.maskValue classes column v' = .ok v' := by
  rw [maskValue_eq_ok] at h ⊢
  rcases h with ⟨-, rfl⟩ | ⟨hrule, s, -, rfl⟩
  · exact .inl ⟨.inr rfl, rfl⟩
  · exact .inr ⟨hrule, _, rfl, congrArg Value.string (rule.maskText_idempotent s).symm⟩

/-- What a mask shows as it is, it still does behind another mask. -/
theorem maskValue_kept {rule other : MaskRule} {column column' : String} {v v' : Value}
    (h : rule.maskValue classes column v = .ok v)
    (hother : other.maskValue classes column' v = .ok v') :
    rule.maskValue classes column v' = .ok v' := by
  rw [maskValue_eq_ok] at h hother ⊢
  rcases hother with ⟨-, rfl⟩ | ⟨-, s, rfl, rfl⟩
  · exact .inl ⟨.inr rfl, rfl⟩
  · rcases h with ⟨-, hnull⟩ | ⟨hrule, s', hs', hsame⟩
    · cases hnull
    · cases hs'
      have hkept := maskText_kept (Value.string.inj hsame).symm other
      exact .inr ⟨hrule, _, rfl, congrArg Value.string hkept.symm⟩

end MaskRule

namespace SanitizerRegistry

variable {r : SanitizerRegistry} {masks : List (String × MaskRule)} {row next row' : Row}
  {column column' : String} {rule rule' : MaskRule}

theorem maskColumn_eq_ok : maskColumn classes row column rule = .ok next ↔
    (row.lookup column = none ∧ next = row) ∨ ∃ v v', row.lookup column = some v ∧
      rule.maskValue classes column v = .ok v' ∧ next = Entries.put column v' row := by
  rw [maskColumn]
  cases hv : row.lookup column with
  | none => simp [eq_comm]
  | some v =>
    simp only [bind_eq_ok, reduceCtorEq, false_and, false_or, Option.some.injEq, exists_and_left,
      exists_eq_left']
    exact exists_congr fun v' => and_congr_right fun _ => by simp [pure, Except.pure, eq_comm]

/-- A row that the mask of a column leaves as it is: it does not have the column, or what it has
there is shown as it is. -/
theorem maskColumn_eq_self_iff (hrow : Entries.Ascending row) :
    maskColumn classes row column rule = .ok row ↔
      ∀ v, row.lookup column = some v → rule.maskValue classes column v = .ok v := by
  rw [maskColumn_eq_ok]
  constructor
  · rintro (⟨hnone, -⟩ | ⟨v, v', hv, hmask, hput⟩) w hw
    · rw [hnone] at hw
      cases hw
    · -- what was put in is what is found
      have hsame : row.lookup column = some v' := by
        rw [hput, Entries.lookup_put_self]
      rw [hv] at hw hsame
      cases hw
      cases hsame
      exact hmask
  · intro h
    cases hv : row.lookup column with
    | none => exact .inl ⟨rfl, rfl⟩
    | some v => exact .inr ⟨v, v, rfl, h v hv, (hrow.put_eq_self hv).symm⟩

theorem ascending_of_maskColumn (hrow : Entries.Ascending row)
    (h : maskColumn classes row column rule = .ok next) : Entries.Ascending next := by
  rcases maskColumn_eq_ok.1 h with ⟨-, rfl⟩ | ⟨_, _, -, -, rfl⟩
  · exact hrow
  · exact hrow.put

/-- A mask finds the row as it left it. -/
theorem maskColumn_idempotent (hrow : Entries.Ascending row)
    (h : maskColumn classes row column rule = .ok next) :
    maskColumn classes next column rule = .ok next := by
  rw [maskColumn_eq_self_iff (ascending_of_maskColumn hrow h)]
  intro w hw
  rcases maskColumn_eq_ok.1 h with ⟨hnone, rfl⟩ | ⟨v, v', -, hmask, rfl⟩
  · rw [hnone] at hw
    cases hw
  · rw [Entries.lookup_put_self] at hw
    cases hw
    exact MaskRule.maskValue_idempotent hmask

/-- A mask that leaves the row as it is still does behind the mask of any column, its own
included. -/
theorem maskColumn_kept (hrow : Entries.Ascending row)
    (h : maskColumn classes row column rule = .ok row)
    (hother : maskColumn classes row column' rule' = .ok next) :
    maskColumn classes next column rule = .ok next := by
  rw [maskColumn_eq_self_iff hrow] at h
  rw [maskColumn_eq_self_iff (ascending_of_maskColumn hrow hother)]
  intro w hw
  rcases maskColumn_eq_ok.1 hother with ⟨-, rfl⟩ | ⟨v, v', hv, hmask, rfl⟩
  · exact h w hw
  · by_cases hsame : column = column'
    · subst hsame
      rw [Entries.lookup_put_self] at hw
      cases hw
      exact MaskRule.maskValue_kept (h v hv) hmask
    · rw [Entries.lookup_put_ne hsame] at hw
      exact h w hw

theorem maskRow_kept (hrow : Entries.Ascending row)
    (h : maskColumn classes row column rule = .ok row)
    (hmasks : maskRow classes masks row = .ok row') :
    maskColumn classes row' column rule = .ok row' := by
  induction masks generalizing row with
  | nil =>
    cases hmasks
    exact h
  | cons mask masks ih =>
    obtain ⟨next, hnext, hrest⟩ := bind_eq_ok.1 ((maskRow_cons _ _ _ _).symm.trans hmasks)
    exact ih (ascending_of_maskColumn hrow hnext) (maskColumn_kept hrow h hnext) hrest

/-- Every mask finds a masked row as it is. -/
theorem maskColumn_of_maskRow (hrow : Entries.Ascending row)
    (hmasks : maskRow classes masks row = .ok row') :
    ∀ mask ∈ masks, maskColumn classes row' mask.1 mask.2 = .ok row' := by
  induction masks generalizing row with
  | nil => simp
  | cons mask masks ih =>
    obtain ⟨next, hnext, hrest⟩ := bind_eq_ok.1 ((maskRow_cons _ _ _ _).symm.trans hmasks)
    have hnextRow := ascending_of_maskColumn hrow hnext
    rw [List.forall_mem_cons]
    exact ⟨maskRow_kept hnextRow (maskColumn_idempotent hrow hnext) hrest, ih hnextRow hrest⟩

theorem maskRow_eq_self (h : ∀ mask ∈ masks, maskColumn classes row mask.1 mask.2 = .ok row) :
    maskRow classes masks row = .ok row := by
  induction masks with
  | nil => rfl
  | cons mask masks ih =>
    rw [List.forall_mem_cons] at h
    rw [maskRow_cons, h.1]
    exact ih h.2

theorem maskRow_idempotent (hrow : Entries.Ascending row)
    (h : maskRow classes masks row = .ok row') :
    maskRow classes masks row' = .ok row' :=
  maskRow_eq_self (maskColumn_of_maskRow hrow h)

/-- A sanitized batch is sanitized to itself, whatever its columns are called. -/
theorem sanitize_idempotent (r : SanitizerRegistry) {output : QueryOutput} {rows : List Row}
    (hrows : ∀ row ∈ output.rows, Entries.Ascending row) (h : r.sanitize output = .ok rows) :
    r.sanitize ⟨output.columns, rows⟩ = .ok rows := by
  obtain ⟨columns, rows₀⟩ := output
  cases rows₀ with
  | nil =>
    cases h
    rfl
  | cons row rows₀ =>
    obtain ⟨masks, hmasks, hmasked⟩ := bind_eq_ok.1 h
    have hfixed : ∀ row' ∈ rows, maskRow r.classes (masks.filterMap id) row' = .ok row' := by
      intro row' hmem
      obtain ⟨row, hrow, hmask⟩ := exists_of_mem_mapM hmasked hmem
      exact maskRow_idempotent (hrows row hrow) hmask
    cases rows with
    | nil => rfl
    | cons row' rows =>
      apply bind_eq_ok.2
      exact ⟨masks, hmasks, mapM_eq_ok.2 (List.forall₂_same.2 hfixed)⟩

/-- What the desk may see of guests: how long they stay, and names by their form. -/
def desk : List Registration :=
  [("guest", .columnMask (KeyMap.ofList [("name", .preserveFormat), ("phone", .null),
    ("room", .fixed)]))]

def guests : QueryOutput where
  columns := [⟨"nights", some "guest", some "nights"⟩, ⟨"phone", some "Guest", some "PHONE"⟩,
    ⟨"room", some "guest", some "room"⟩, ⟨"who", some "guest", some "name"⟩]
  rows := [[("nights", .integer 2), ("phone", .integer 5551234), ("room", .string "12a"),
      ("who", .string "Zoë ٣X0*")],
    [("nights", .null), ("phone", .null), ("room", .string ""), ("who", .null)]]

def guestsShown : List Row :=
  [[("nights", .integer 2), ("phone", .null), ("room", .string "***"), ("who", .string "XXX 0X0*")],
    [("nights", .null), ("phone", .null), ("room", .string ""), ("who", .null)]]

set_option maxRecDepth 20000 in
theorem sanitize_guests : (registered .unicode17 desk).sanitize guests = .ok guestsShown := rfl

/-- A number is hidden, which could not be masked in place, and the null that hides it stays. -/
theorem guests_idempotent :
    (∀ row ∈ guests.rows, Entries.Ascending row) ∧
      (registered .unicode17 desk).sanitize guests = .ok guestsShown ∧
      (registered .unicode17 desk).sanitize ⟨guests.columns, guestsShown⟩ = .ok guestsShown := by
  have hkeys : ["nights", "phone", "room", "who"].Pairwise (· < ·) := by decide
  have hrows : ∀ row ∈ guests.rows, Entries.Ascending row := by
    intro row hrow
    rcases List.mem_pair.1 hrow with rfl | rfl
    all_goals exact List.pairwise_map.1 hkeys
  exact ⟨hrows, sanitize_guests, sanitize_idempotent (registered .unicode17 desk) hrows sanitize_guests⟩

end SanitizerRegistry

end StatementGate
