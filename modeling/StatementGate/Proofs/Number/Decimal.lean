import Mathlib.Algebra.Order.Ring.Rat
import StatementGate.Proofs.Outcome
import StatementGate.Proofs.Text.Digits

/-! # Decimal texts

The number that a decimal stands for, and the proof that every decimal's text reads as the same
number, whether it is written out or with a power of ten. -/

namespace StatementGate.Decimal

/-- The number that a decimal stands for. -/
def value (d : Decimal) : ℚ := d.digits * (10 : ℚ) ^ (-d.scale.toInt)

theorem boundedDigits_eq {limit : Nat} {overflow : DecimalError} {ds : List Char} {n : Nat}
    (hdigits : ∀ c ∈ ds, c.isDigit = true) (hlimit : Nat.ofDigitChars 10 ds n ≤ limit) :
    boundedDigits limit overflow ds n = .ok (Nat.ofDigitChars 10 ds n) := by
  induction ds generalizing n with
  | nil => rfl
  | cons c ds ih =>
    rw [List.forall_mem_cons] at hdigits
    rw [Nat.ofDigitChars_cons, Nat.mul_comm] at hlimit ⊢
    have hle := Nat.le_trans (le_ofDigitChars ds (n * 10 + digitValue c)) hlimit
    rw [boundedDigits, hdigits.1]
    simp only [Bool.not_true, Bool.false_eq_true, if_false]
    rw [if_neg (Nat.not_lt.2 hle)]
    exact ih hdigits.2 hlimit

theorem readExponent_negative {ds : List Char} (hne : ds ≠ [])
    (hdigits : ∀ c ∈ ds, c.isDigit = true) (hlimit : Nat.ofDigitChars 10 ds 0 ≤ Nat.pow 2 127) :
    readExponent ('-' :: ds) = .ok (-(Nat.ofDigitChars 10 ds 0 : Int)) := by
  cases ds with
  | nil => exact absurd rfl hne
  | cons c ds =>
    rw [readExponent]
    · rw [boundedDigits_eq hdigits hlimit]
      rfl
    · simp

theorem readExponent_positive {ds : List Char} (hne : ds ≠ [])
    (hdigits : ∀ c ∈ ds, c.isDigit = true) (hlimit : Nat.ofDigitChars 10 ds 0 ≤ Nat.pow 2 127 - 1) :
    readExponent ('+' :: ds) = .ok (Nat.ofDigitChars 10 ds 0 : Int) := by
  cases ds with
  | nil => exact absurd rfl hne
  | cons c ds =>
    rw [readExponent]
    · rw [boundedDigits_eq hdigits hlimit]
      rfl
    · simp

theorem magnitudeDigits_eq {ds : List Char} {n : Nat} (h : ∀ c ∈ ds, c.isDigit = true) :
    magnitudeDigits ds n = .ok (Nat.ofDigitChars 10 ds n) := by
  induction ds generalizing n with
  | nil => rfl
  | cons c ds ih =>
    rw [List.forall_mem_cons] at h
    rw [magnitudeDigits, if_neg (ne_of_isDigit h.1 (by decide)), if_pos h.1, ih h.2,
      Nat.ofDigitChars_cons, Nat.mul_comm]
    rfl

theorem readMagnitude_eq {ds : List Char} (hne : ds ≠ []) (h : ∀ c ∈ ds, c.isDigit = true) :
    readMagnitude ds = .ok (Nat.ofDigitChars 10 ds 0) := by
  cases ds with
  | nil => exact absurd rfl hne
  | cons c ds =>
    have hc := h c List.mem_cons_self
    have hplus : c ≠ '+' := ne_of_isDigit hc (by decide)
    have hunderscore : c ≠ '_' := ne_of_isDigit hc (by decide)
    unfold readMagnitude
    split
    · rename_i heq
      cases heq
      exact absurd rfl hplus
    · rename_i heq
      cases heq
      exact absurd rfl hplus
    · dsimp only
      split
      · rename_i heq
        cases heq
      · rename_i heq
        cases heq
        exact absurd rfl hunderscore
      · exact magnitudeDigits_eq h

/-- The sign in front of digits. -/
def signText (negative : Bool) : List Char := if negative then ['-'] else []

def signed (negative : Bool) (n : Nat) : Int := if negative then -(n : Int) else n

theorem readInteger_eq {negative : Bool} {ds : List Char} (hne : ds ≠ [])
    (h : ∀ c ∈ ds, c.isDigit = true) :
    readInteger (signText negative ++ ds) = .ok (signed negative (Nat.ofDigitChars 10 ds 0)) := by
  cases ds with
  | nil => exact absurd rfl hne
  | cons c ds =>
    have hc := h c List.mem_cons_self
    have hplus : c ≠ '+' := ne_of_isDigit hc (by decide)
    have hminus : c ≠ '-' := ne_of_isDigit hc (by decide)
    cases negative with
    | true =>
      change readInteger ('-' :: c :: ds) = _
      rw [readInteger]
      · rw [readMagnitude_eq hne h]
        rfl
      · intro rest heq
        cases heq
        exact hplus rfl
    | false =>
      change readInteger (c :: ds) = _
      rw [readInteger]
      · rw [readMagnitude_eq hne h]
        rfl
      · intro rest heq
        cases heq
        exact hminus rfl
      · intro rest heq
        cases heq
        exact hminus rfl

/-- The point and the digits behind it, where there are any. -/
inductive PointText : List Char → List Char → Prop where
  | none : PointText [] []
  | some (decimals : List Char) : PointText ('.' :: decimals) decimals

/-- An exponent with its mark, or none at all. -/
inductive ExponentText : List Char → Int → Prop where
  | none : ExponentText [] 0
  | some {mark : Char} {text : List Char} {exponent : Int} :
    isExponentMark mark = true → readExponent text = .ok exponent →
    ExponentText (mark :: text) exponent

section Parts

variable {negative : Bool} {whole point decimals exp : List Char} {exponent : Int}

theorem mem_base (hwhole : ∀ c ∈ whole ++ decimals, c.isDigit = true)
    (hpoint : PointText point decimals) {c : Char}
    (h : c ∈ signText negative ++ whole ++ point) : c = '-' ∨ c = '.' ∨ c.isDigit = true := by
  rcases List.mem_append.1 h with h | h
  · rcases List.mem_append.1 h with h | h
    · cases negative with
      | true => exact .inl (List.mem_singleton.1 h)
      | false => cases h
    · exact .inr (.inr (hwhole c (List.mem_append_left _ h)))
  · cases hpoint with
    | none => cases h
    | some =>
      rcases List.mem_cons.1 h with rfl | h
      · exact .inr (.inl rfl)
      · exact .inr (.inr (hwhole c (List.mem_append_right _ h)))

theorem isExponentMark_of_base {c : Char} (h : c = '-' ∨ c = '.' ∨ c.isDigit = true) :
    (!isExponentMark c) = true := by
  rcases h with rfl | rfl | h
  · rfl
  · rfl
  · have he : c ≠ 'e' := ne_of_isDigit h (by decide)
    have hE : c ≠ 'E' := ne_of_isDigit h (by decide)
    simp [isExponentMark, he, hE]

theorem ne_point_of_whole (hwhole : ∀ c ∈ whole, c.isDigit = true) {c : Char}
    (h : c ∈ signText negative ++ whole) : (c != '.') = true := by
  rcases List.mem_append.1 h with h | h
  · cases negative with
    | true =>
      cases List.mem_singleton.1 h
      rfl
    | false => cases h
  · exact bne_iff_ne.2 (ne_of_isDigit (hwhole c h) (by decide))

/-- A text of sign, digits, point and exponent reads as it looks. -/
theorem parse_parts (hne : whole ≠ []) (hdigits : ∀ c ∈ whole ++ decimals, c.isDigit = true)
    (hpoint : PointText point decimals) (hexp : ExponentText exp exponent)
    (hmin : minScale ≤ decimals.length - exponent) (hmax : decimals.length - exponent ≤ maxScale) :
    parse (String.ofList (signText negative ++ whole ++ point ++ exp)) =
      .ok ⟨signed negative (Nat.ofDigitChars 10 (whole ++ decimals) 0),
        Int64.ofInt (decimals.length - exponent)⟩ := by
  have hwhole : ∀ c ∈ whole, c.isDigit = true := fun c hc => hdigits c (List.mem_append_left _ hc)
  have hmarks : ∀ c ∈ signText negative ++ whole ++ point, (!isExponentMark c) = true :=
    fun c hc => isExponentMark_of_base (mem_base hdigits hpoint hc)
  have hbase : (signText negative ++ whole ++ point ++ exp).takeWhile (!isExponentMark ·) =
      signText negative ++ whole ++ point := by
    rw [List.takeWhile_append_of_pos hmarks]
    cases hexp with
    | none => exact List.append_nil _
    | some hmark => rw [List.takeWhile_cons, hmark]; exact List.append_nil _
  have hrest : (signText negative ++ whole ++ point ++ exp).dropWhile (!isExponentMark ·) = exp := by
    rw [List.dropWhile_append_of_pos hmarks]
    cases hexp with
    | none => rfl
    | some hmark => rw [List.dropWhile_cons, hmark]; rfl
  have hnames : ∀ c ∈ signText negative ++ whole, (c != '.') = true :=
    fun c hc => ne_point_of_whole hwhole hc
  have htake : (signText negative ++ whole ++ point).takeWhile (· != '.') =
      signText negative ++ whole := by
    rw [List.takeWhile_append_of_pos hnames]
    cases hpoint <;> exact List.append_nil _
  have hdrop : ((signText negative ++ whole ++ point).dropWhile (· != '.')).drop 1 = decimals := by
    rw [List.dropWhile_append_of_pos hnames]
    cases hpoint <;> rfl
  have hfilter : decimals.filter (· != '_') = decimals :=
    List.filter_eq_self.2 fun c hc =>
      bne_iff_ne.2 (ne_of_isDigit (hdigits c (List.mem_append_right _ hc)) (by decide))
  have hnonempty : (signText negative ++ whole ++ point).isEmpty = false := by
    cases whole with
    | nil => exact absurd rfl hne
    | cons => simp
  have hinteger : readInteger (signText negative ++ whole ++ decimals) =
      .ok (signed negative (Nat.ofDigitChars 10 (whole ++ decimals) 0)) := by
    rw [List.append_assoc]
    exact readInteger_eq (by simp [hne]) hdigits
  have hscale : ¬(decimals.length - exponent < minScale ∨ maxScale < decimals.length - exponent) := by
    omega
  simp only [parse]
  rw [String.toList_ofList]
  simp only [hbase, hrest, htake, hdrop, hfilter, hnonempty]
  cases hexp with
  | none =>
    simp only [pure_bind, Bool.false_eq_true, if_false, if_neg hscale, hinteger]
    rfl
  | some _ hread =>
    simp only [hread, bind, Except.bind, Bool.false_eq_true, if_false, if_neg hscale, hinteger]
    rfl

end Parts

/-- Texts without a sign that read as the given digits with the given scale. -/
inductive Spells : List Char → Nat → Int → Prop where
  | intro {whole point decimals exp : List Char} {exponent : Int} :
    whole ≠ [] → (∀ c ∈ whole ++ decimals, c.isDigit = true) → PointText point decimals →
    ExponentText exp exponent →
    Spells (whole ++ point ++ exp) (Nat.ofDigitChars 10 (whole ++ decimals) 0)
      (decimals.length - exponent)

theorem Spells.parse_eq {text : List Char} {n : Nat} {scale : Int} (h : Spells text n scale)
    (hmin : minScale ≤ scale) (hmax : scale ≤ maxScale) (negative : Bool) :
    parse (String.ofList (signText negative ++ text)) =
      .ok ⟨signed negative n, Int64.ofInt scale⟩ := by
  cases h with
  | intro hne hdigits hpoint hexp =>
    rw [← List.append_assoc, ← List.append_assoc]
    exact parse_parts hne hdigits hpoint hexp hmin hmax

theorem toDigits_le_limit {n : Nat} (h : n ≤ 2 ^ 64) :
    Nat.ofDigitChars 10 (Nat.toDigits 10 n) 0 ≤ Nat.pow 2 127 - 1 := by
  rw [Nat.ofDigitChars_ten_toDigits]
  exact Nat.le_trans h (by decide)

theorem Spells.whole {whole : List Char} (hne : whole ≠ []) (h : ∀ c ∈ whole, c.isDigit = true) :
    Spells whole (Nat.ofDigitChars 10 whole 0) 0 := by
  have := @Spells.intro whole [] [] [] 0 hne (by simpa using h) .none .none
  simpa using this

theorem Spells.point {whole decimals : List Char} (hne : whole ≠ [])
    (h : ∀ c ∈ whole ++ decimals, c.isDigit = true) :
    Spells (whole ++ '.' :: decimals) (Nat.ofDigitChars 10 (whole ++ decimals) 0)
      decimals.length := by
  have := @Spells.intro whole _ decimals [] 0 hne h (.some decimals) .none
  simpa using this

theorem exponentText_negative {k : Nat} (h : k ≤ 2 ^ 64) :
    ExponentText ('E' :: '-' :: Nat.toDigits 10 k) (-k) := by
  have hread := readExponent_negative Nat.toDigits_ne_nil (fun c hc => isDigit_of_mem_toDigits hc)
    (Nat.le_trans (toDigits_le_limit h) (by decide))
  rw [Nat.ofDigitChars_ten_toDigits] at hread
  exact .some rfl hread

theorem exponentText_positive {k : Nat} (h : k ≤ 2 ^ 64) :
    ExponentText ('e' :: '+' :: Nat.toDigits 10 k) k := by
  have hread := readExponent_positive Nat.toDigits_ne_nil (fun c hc => isDigit_of_mem_toDigits hc)
    (toDigits_le_limit h)
  rw [Nat.ofDigitChars_ten_toDigits] at hread
  exact .some rfl hread

section Layouts

variable {ds : List Char} {scale : Int}

/-- The digits of scientific text: the first, and the others behind a point. -/
def mantissa : List Char → List Char
  | d :: e :: rest => d :: '.' :: e :: rest
  | ds => ds

theorem spells_scientific (hne : ds ≠ []) (hds : ∀ c ∈ ds, c.isDigit = true)
    (hfar : 0 < scale - ds.length) (hmax : scale ≤ maxScale) :
    Spells (mantissa ds ++ ['E', '-'] ++ Nat.toDigits 10 (scale - ds.length + 1).toNat)
      (Nat.ofDigitChars 10 ds 0) scale := by
  simp only [maxScale] at hmax
  have hexp := exponentText_negative (k := (scale - ds.length + 1).toNat) (by omega)
  rw [Int.toNat_of_nonneg (by omega)] at hexp
  rw [List.append_assoc]
  cases ds with
  | nil => exact absurd rfl hne
  | cons d ds =>
    cases ds with
    | nil =>
      have hscale : (([] : List Char).length : Int) - -(scale - [d].length + 1) = scale := by
        simp only [List.length_nil, List.length_singleton]
        omega
      have := @Spells.intro [d] [] [] _ _ hne hds .none hexp
      rwa [hscale] at this
    | cons e rest =>
      have hscale : ((e :: rest).length : Int) - -(scale - (d :: e :: rest).length + 1) = scale := by
        simp only [List.length_cons]
        omega
      have := @Spells.intro [d] _ (e :: rest) _ _ (List.cons_ne_nil d []) hds (.some _) hexp
      rwa [hscale] at this

/-- All digits with a power behind them. -/
theorem spells_power (hne : ds ≠ []) (hds : ∀ c ∈ ds, c.isDigit = true) (hlarge : scale ≤ 0)
    (hmin : minScale ≤ scale) :
    Spells (ds ++ ['e', '+'] ++ Nat.toDigits 10 (-scale).toNat) (Nat.ofDigitChars 10 ds 0) scale := by
  simp only [minScale] at hmin
  have hexp := exponentText_positive (k := (-scale).toNat) (by omega)
  rw [Int.toNat_of_nonneg (by omega)] at hexp
  have := @Spells.intro ds [] [] _ _ hne (by simpa using hds) .none hexp
  simpa using this

/-- The zeros before the point written out. -/
theorem spells_zeros (hne : ds ≠ []) (hds : ∀ c ∈ ds, c.isDigit = true) :
    Spells (ds ++ List.replicate (-scale).toNat '0')
      (Nat.ofDigitChars 10 ds 0 * 10 ^ (-scale).toNat) 0 := by
  have hdigits : ∀ c ∈ ds ++ List.replicate (-scale).toNat '0', c.isDigit = true := by
    intro c hc
    rcases List.mem_append.1 hc with hc | hc
    · exact hds c hc
    · exact isDigit_of_mem_zeros hc
  have := Spells.whole (by simp [hne]) hdigits
  rwa [Nat.ofDigitChars_append, Nat.ofDigitChars_replicate_zero, Nat.mul_comm] at this

/-- The zeros behind the point written out. -/
theorem spells_small (hds : ∀ c ∈ ds, c.isDigit = true) (hscale : ds.length ≤ scale) :
    Spells ('0' :: '.' :: List.replicate (scale - ds.length).toNat '0' ++ ds)
      (Nat.ofDigitChars 10 ds 0) scale := by
  let decimals := List.replicate (scale - ds.length).toNat '0' ++ ds
  have hdigits : ∀ c ∈ '0' :: decimals, c.isDigit = true := by
    refine List.forall_mem_cons.2 ⟨rfl, fun c hc => ?_⟩
    rcases List.mem_append.1 hc with hc | hc
    · exact isDigit_of_mem_zeros hc
    · exact hds c hc
  have hlength : (decimals.length : Int) = scale := by
    simp only [decimals, List.length_append, List.length_replicate]
    omega
  have hvalue : Nat.ofDigitChars 10 (['0'] ++ decimals) 0 = Nat.ofDigitChars 10 ds 0 := by
    simp only [decimals, Nat.ofDigitChars_append, Nat.ofDigitChars_replicate_zero]
    rfl
  have := @Spells.point ['0'] decimals (List.cons_ne_nil _ _) hdigits
  rwa [hlength, hvalue] at this

/-- A point between the digits. -/
theorem spells_between (hds : ∀ c ∈ ds, c.isDigit = true) (hpos : 0 < scale)
    (hscale : scale < ds.length) :
    Spells (ds.take (ds.length - scale).toNat ++ '.' :: ds.drop (ds.length - scale).toNat)
      (Nat.ofDigitChars 10 ds 0) scale := by
  have hne : ds.take (ds.length - scale).toNat ≠ [] := by
    intro h
    have := congrArg List.length h
    simp only [List.length_take, List.length_nil] at this
    omega
  have hlength : ((ds.drop (ds.length - scale).toNat).length : Int) = scale := by
    rw [List.length_drop]
    omega
  have := Spells.point hne (by rwa [List.take_append_drop])
  rwa [hlength, List.take_append_drop] at this

/-- The digits of a decimal are written with its own scale, or with zeros before the point. -/
theorem spells_renderMagnitude (hne : ds ≠ []) (hds : ∀ c ∈ ds, c.isDigit = true)
    (hmin : minScale ≤ scale) (hmax : scale ≤ maxScale) :
    Spells (renderMagnitude ds scale) (Nat.ofDigitChars 10 ds 0) scale ∨
      scale ≤ 0 ∧ renderMagnitude ds scale = ds ++ List.replicate (-scale).toNat '0' := by
  unfold renderMagnitude
  dsimp only
  split
  · rename_i hfar
    simp only [maxLeadingZeros] at hfar
    exact .inl (spells_scientific hne hds (by omega) hmax)
  · split
    · rename_i hlarge
      simp only [maxTrailingZeros] at hlarge
      exact .inl (spells_power hne hds (by omega) hmin)
    · split
      · rename_i hwhole
        exact .inr ⟨hwhole, rfl⟩
      · split
        · rename_i hsmall
          exact .inl (spells_small hds hsmall)
        · exact .inl (spells_between hds (by omega) (by omega))

end Layouts

theorem signed_natAbs (i : Int) : signed (decide (i < 0)) i.natAbs = i := by
  simp only [signed]
  split
  · rename_i h
    have := of_decide_eq_true h
    omega
  · rename_i h
    have := mt decide_eq_true h
    omega

theorem signed_mul (negative : Bool) (m n : Nat) :
    signed negative (m * n) = signed negative m * n := by
  cases negative <;> simp [signed]

theorem render_of_ne_zero {d : Decimal} (h : d.digits ≠ 0) :
    d.render = String.ofList (signText (decide (d.digits < 0)) ++
      renderMagnitude (Nat.toDigits 10 d.digits.natAbs) d.scale.toInt) := by
  simp only [render]
  rw [if_neg h]
  by_cases hneg : d.digits < 0
  · simp [hneg, signText]
  · simp [hneg, signText]

/-- Digits without a scale are written as they are. -/
theorem renderMagnitude_zero (ds : List Char) : renderMagnitude ds 0 = ds := by
  simp [renderMagnitude, maxTrailingZeros]

theorem render_mul_pow {d : Decimal} (h : d.digits ≠ 0) (k : Nat) :
    (⟨d.digits * (10 ^ k : Nat), 0⟩ : Decimal).render =
      String.ofList (signText (decide (d.digits < 0)) ++
        (Nat.toDigits 10 d.digits.natAbs ++ List.replicate k '0')) := by
  have hpos : 0 < 10 ^ k := Nat.pow_pos (by decide)
  have hpower : (0 : Int) < (10 ^ k : Nat) := Int.natCast_pos.2 hpos
  have hne : d.digits * (10 ^ k : Nat) ≠ 0 := Int.mul_ne_zero h hpower.ne'
  have hsign : d.digits * (10 ^ k : Nat) < 0 ↔ d.digits < 0 := by
    rw [← Int.not_le, ← Int.not_le, Int.mul_nonneg_iff_of_pos_right hpower]
  rw [render_of_ne_zero hne]
  simp only [hsign, Int.natAbs_mul, Int.natAbs_natCast, toDigits_mul_pow (Int.natAbs_pos.2 h)]
  rw [Int64.toInt_zero, renderMagnitude_zero]

/-- Every decimal's text reads as the number that the decimal stands for, and what it reads as is
written as the same text. -/
theorem parse_render_stable (d : Decimal) :
    ∃ d', parse d.render = .ok d' ∧ d'.value = d.value ∧ d'.render = d.render := by
  by_cases hzero : d.digits = 0
  · have hrender : d.render = "0" := by
      simp only [render]
      rw [if_pos hzero]
    refine ⟨⟨0, 0⟩, ?_, ?_, ?_⟩
    · rw [hrender]
      rfl
    · simp [value, hzero]
    · rw [hrender]
      rfl
  · have hmin : minScale ≤ d.scale.toInt := Int64.le_toInt d.scale
    have hmax : d.scale.toInt ≤ maxScale := Int64.toInt_le d.scale
    have hdigits : ∀ c ∈ Nat.toDigits 10 d.digits.natAbs, c.isDigit = true := fun c hc =>
      isDigit_of_mem_toDigits hc
    rw [render_of_ne_zero hzero]
    rcases spells_renderMagnitude Nat.toDigits_ne_nil hdigits hmin hmax with
      hspells | ⟨hscale, hzeros⟩
    · rw [hspells.parse_eq hmin hmax, Nat.ofDigitChars_ten_toDigits, signed_natAbs,
        Int64.ofInt_toInt]
      exact ⟨d, rfl, rfl, render_of_ne_zero hzero⟩
    · have hspells := @spells_zeros _ d.scale.toInt Nat.toDigits_ne_nil hdigits
      rw [hzeros, hspells.parse_eq (by decide) (by decide), Nat.ofDigitChars_ten_toDigits,
        signed_mul, signed_natAbs]
      refine ⟨_, rfl, ?_, render_mul_pow hzero _⟩
      have hpower : (10 : ℚ) ^ (-d.scale.toInt) = 10 ^ (-d.scale.toInt).toNat := by
        rw [← zpow_natCast, Int.toNat_of_nonneg (by omega)]
      simp [value, hpower]

theorem parse_render (d : Decimal) : ∃ d', parse d.render = .ok d' ∧ d'.value = d.value := by
  obtain ⟨d', hparse, hvalue, -⟩ := d.parse_render_stable
  exact ⟨d', hparse, hvalue⟩

end StatementGate.Decimal
