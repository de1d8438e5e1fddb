import Mathlib.Data.List.TakeWhile
import StatementGate.Proofs.Outcome
import StatementGate.Proofs.Text.Bytes
import StatementGate.Proofs.Text.Digits

/-! # Date and moment texts

Every date's text reads as that date, and the RFC 3339 text of a moment, where it has one, as the
moment. Every moment that a text gives has such a text. -/

namespace StatementGate

theorem fixedDigits_paddedDigits {count n : Nat} (hcount : 0 < count) (h : n < 10 ^ count)
    (component : Component) (rest : List Char) :
    fixedDigits count component (paddedDigits count n ++ rest) = .ok (n, rest) := by
  have hlength := length_paddedDigits hcount h
  have hdigits : (paddedDigits count n).all Char.isDigit = true :=
    List.all_eq_true.2 fun _ hc => isDigit_of_mem_paddedDigits hc
  unfold fixedDigits
  rw [List.take_left' hlength, List.drop_left' hlength]
  dsimp only
  rw [number_paddedDigits]
  exact if_pos ⟨hlength, hdigits⟩

theorem literal_cons (c : Char) (rest : List Char) : literal c (c :: rest) = .ok rest :=
  if_pos rfl

theorem oneOf_paddedDigits {low high n : Nat} (hlow : low ≤ n) (hhigh : n ≤ high) (h : n < 100)
    (component : Component) (rest : List Char) :
    oneOf (low, high) component (paddedDigits 2 n ++ rest) = .ok (n, rest) := by
  simp only [oneOf]
  rw [fixedDigits_paddedDigits (by decide) h]
  exact if_pos ⟨hlow, hhigh⟩

theorem bounds_of_oneOf {limits : Nat × Nat} {component : Component} {s rest : List Char} {n : Nat}
    (h : oneOf limits component s = .ok (n, rest)) : limits.1 ≤ n ∧ n ≤ limits.2 := by
  obtain ⟨⟨m, rest'⟩, -, h⟩ := bind_eq_ok.1 h
  dsimp only at h
  by_cases hbounds : limits.1 ≤ m ∧ m ≤ limits.2
  · rw [if_pos hbounds] at h
    cases h
    exact hbounds
  · rw [if_neg hbounds] at h
    cases h

namespace Date

theorem year_of_of? {year : Int} {month day : Nat} {d : Date} (h : of? year month day = some d) :
    d.year = year := by
  simp only [of?] at h
  split_ifs at h
  cases h
  rfl

theorem day_le (d : Date) : d.day ≤ 31 := by
  have hday := d.day_bounds.2
  have hmonth : daysInMonth d.year d.month ≤ 31 := by
    simp only [daysInMonth]
    repeat' split
    all_goals decide
  exact Nat.le_trans hday hmonth

theorem of?_self (d : Date) : of? d.year d.month d.day = some d := by
  simp only [of?]
  rw [dif_pos d.year_bounds, dif_pos d.month_bounds, dif_pos d.day_bounds]

theorem signedYear_minus (cs : List Char) :
    signedYear ('-' :: cs) =
      (fixedDigits 4 .year cs).map fun (n, rest) => (-(n : Int), rest) := by
  change (fixedDigits 4 .year cs >>= fun x => pure (-(x.1 : Int), x.2)) = _
  cases fixedDigits 4 .year cs <;> rfl

theorem signedYear_of_isDigit {c : Char} (h : c.isDigit = true) (cs : List Char) :
    signedYear (c :: cs) =
      (fixedDigits 4 .year (c :: cs)).map fun (n, rest) => ((n : Int), rest) := by
  have hminus : c ≠ '-' := ne_of_isDigit h (by decide)
  have hplus : c ≠ '+' := ne_of_isDigit h (by decide)
  unfold signedYear
  split
  rename_i heq
  split at heq
  case h_1 hcons => exact absurd (List.cons.inj hcons).1 hminus
  case h_2 hcons => exact absurd (List.cons.inj hcons).1 hplus
  case h_3 =>
    cases heq
    cases fixedDigits 4 .year (c :: cs) <;> rfl

theorem signedYear_renderYear {year : Int} (h : -9999 ≤ year ∧ year ≤ 9999)
    (rest : List Char) : signedYear (renderYear year ++ rest) = .ok (year, rest) := by
  have hlt : year.natAbs < 10 ^ 4 := by omega
  have hfixed := fixedDigits_paddedDigits (by decide : 0 < 4) hlt .year rest
  simp only [renderYear]
  by_cases hneg : year < 0
  · have hyear : -(year.natAbs : Int) = year := by omega
    rw [if_pos hneg, List.cons_append, signedYear_minus, hfixed]
    exact congrArg (fun y => Except.ok (y, rest)) hyear
  · have hyear : (year.natAbs : Int) = year := by omega
    rw [if_neg hneg]
    cases hpadded : paddedDigits 4 year.natAbs with
    | nil =>
      have hlength := length_paddedDigits (by decide : 0 < 4) hlt
      rw [hpadded] at hlength
      cases hlength
    | cons c cs =>
      have hc : c.isDigit = true := isDigit_of_mem_paddedDigits (hpadded ▸ List.mem_cons_self)
      rw [List.cons_append, signedYear_of_isDigit hc, ← List.cons_append, ← hpadded, hfixed]
      exact congrArg (fun y => Except.ok (y, rest)) hyear

theorem parse_render (d : Date) : parse d.render = .ok d := by
  have hday := d.day_le
  have hmonth := d.month_bounds
  have hpositive := d.day_bounds.1
  have hlast : oneOf (1, 31) .day (paddedDigits 2 d.day) = .ok (d.day, []) := by
    rw [← oneOf_paddedDigits hpositive hday (by omega) .day [], List.append_nil]
  simp only [parse, render]
  rw [String.toList_ofList, List.append_assoc, List.cons_append]
  simp only [signedYear_renderYear d.year_bounds, literal_cons,
    oneOf_paddedDigits hmonth.1 hmonth.2 (by omega : d.month < 100), hlast, bind, Except.bind,
    of?_self]
  rfl

end Date

namespace DateTime

theorem dropZeros_append_zeros (ds : List Char) :
    dropZeros ds ++ List.replicate (ds.length - (dropZeros ds).length) '0' = ds := by
  have hsplit : dropZeros ds ++ (ds.reverse.takeWhile (· == '0')).reverse = ds := by
    simp only [dropZeros]
    rw [← List.reverse_append, List.takeWhile_append_dropWhile, List.reverse_reverse]
  have hzeros : ∀ c ∈ (ds.reverse.takeWhile (· == '0')).reverse, c = '0' := by
    intro c hc
    have hmem := List.mem_takeWhile_imp (List.mem_reverse.1 hc)
    exact eq_of_beq hmem
  have hlength := congrArg List.length hsplit
  rw [List.length_append] at hlength
  rw [List.eq_replicate_of_mem hzeros] at hsplit
  rw [Nat.sub_eq_of_eq_add (Nat.add_comm _ _ ▸ hlength.symm)]
  exact hsplit

theorem length_dropZeros_le (ds : List Char) : (dropZeros ds).length ≤ ds.length := by
  have hle := (List.dropWhile_sublist (l := ds.reverse) (· == '0')).length_le
  rw [List.length_reverse] at hle
  rw [dropZeros, List.length_reverse]
  exact hle

theorem isDigit_of_mem_dropZeros {ds : List Char} (h : ∀ c ∈ ds, c.isDigit = true) :
    ∀ c ∈ dropZeros ds, c.isDigit = true := by
  intro c hc
  apply h c
  rw [← dropZeros_append_zeros ds]
  exact List.mem_append_left _ hc

/-- Trailing zeros of a fraction are made up by the scale. -/
theorem number_dropZeros {ds : List Char} (h : ∀ c ∈ ds, c.isDigit = true) :
    Digits.number 10 (dropZeros ds) * 10 ^ (ds.length - (dropZeros ds).length) =
      Digits.number 10 ds := by
  rw [Digits.number_eq h, Digits.number_eq (isDigit_of_mem_dropZeros h)]
  conv_rhs => rw [← dropZeros_append_zeros ds, Nat.ofDigitChars_append,
    Nat.ofDigitChars_replicate_zero, Nat.mul_comm]

/-- The offset never goes on with the fraction. -/
theorem renderOffset_head (offset : Int) :
    ∃ c cs, renderOffset offset = c :: cs ∧ c.isDigit = false ∧ c ≠ '.' := by
  simp only [renderOffset]
  by_cases hzero : offset = 0
  · rw [if_pos hzero]
    exact ⟨'Z', [], rfl, by decide, by decide⟩
  · rw [if_neg hzero]
    refine ⟨_, _, rfl, ?_, ?_⟩ <;> split <;> decide

theorem readSubsecond_zero (offset : Int) :
    readSubsecond (renderOffset offset) = .ok (0, renderOffset offset) := by
  obtain ⟨c, cs, hc, -, hdot⟩ := renderOffset_head offset
  rw [hc]
  simp only [readSubsecond]
  split
  case h_1 heq => exact absurd (List.cons.inj heq).1 hdot
  case h_2 => rfl

theorem readSubsecond_dot (rest : List Char) :
    readSubsecond ('.' :: rest) =
      if (rest.takeWhile Char.isDigit).isEmpty then .error (.unreadable .subsecond)
      else .ok (Digits.number 10 ((rest.takeWhile Char.isDigit).take 9) *
        Nat.pow 10 (9 - ((rest.takeWhile Char.isDigit).take 9).length),
          rest.dropWhile Char.isDigit) :=
  rfl

theorem readSubsecond_places {n : Nat} (hpos : n ≠ 0) (h : n < 10 ^ 9) (offset : Int) :
    readSubsecond ('.' :: dropZeros (paddedDigits 9 n) ++ renderOffset offset) =
      .ok (n, renderOffset offset) := by
  obtain ⟨c, cs, hc, hdigit, -⟩ := renderOffset_head offset
  have hdigits : ∀ c ∈ paddedDigits 9 n, c.isDigit = true := fun _ hc =>
    isDigit_of_mem_paddedDigits hc
  have hkept := isDigit_of_mem_dropZeros hdigits
  have hlength : (paddedDigits 9 n).length = 9 := length_paddedDigits (by decide) h
  have hnumber := number_dropZeros hdigits
  have hle := length_dropZeros_le (paddedDigits 9 n)
  rw [hlength] at hnumber hle
  rw [number_paddedDigits] at hnumber
  have hne : dropZeros (paddedDigits 9 n) ≠ [] := by
    intro hempty
    rw [hempty] at hnumber
    exact hpos (hnumber.symm.trans (Nat.zero_mul _))
  have hnot : ¬c.isDigit = true := by simp [hdigit]
  rw [List.cons_append, readSubsecond_dot, List.takeWhile_append_of_pos hkept,
    List.dropWhile_append_of_pos hkept, hc, List.takeWhile_cons_of_neg hnot,
    List.dropWhile_cons_of_neg hnot, List.append_nil, List.take_of_length_le hle, Nat.pow_eq,
    hnumber, if_neg (by simpa using hne)]

theorem readOffset_sign {sign : Char} (h : sign = '+' ∨ sign = '-') {minutes : Nat}
    (hlt : minutes < 24 * 60) :
    readOffset (sign :: paddedDigits 2 (minutes / 60) ++ ':' :: paddedDigits 2 (minutes % 60)) =
      .ok (if sign = '-' then -((minutes * 60 : Nat) : Int) else ((minutes * 60 : Nat) : Int),
        []) := by
  have hhours : minutes / 60 ≤ 23 := by omega
  have hrest : minutes % 60 < 10 ^ 2 := by omega
  have hminutes := fixedDigits_paddedDigits (by decide) hrest .offsetMinute []
  have hseconds : ((minutes / 60 : Nat) : Int) * 3600 + ((minutes % 60 : Nat) : Int) * 60 =
      ((minutes * 60 : Nat) : Int) := by omega
  rw [List.append_nil] at hminutes
  rw [List.cons_append]
  simp only [readOffset]
  split
  case h_1 heq => rcases h with rfl | rfl <;> exact absurd (List.cons.inj heq).1 (by decide)
  case h_2 heq => rcases h with rfl | rfl <;> exact absurd (List.cons.inj heq).1 (by decide)
  case h_4 heq => cases heq
  case h_3 heq =>
    cases heq
    rw [if_pos h, oneOf_paddedDigits (Nat.zero_le _) hhours (by omega)]
    simp only [bind, Except.bind, literal_cons, hminutes]
    rw [if_neg (by omega), hseconds]
    rfl

theorem readOffset_renderOffset {offset : Int} (hlt : offset.natAbs < 24 * 3600)
    (hwhole : offset % 60 = 0) : readOffset (renderOffset offset) = .ok (offset, []) := by
  have hminutes : offset.natAbs / 60 * 60 = offset.natAbs := by omega
  rw [renderOffset]
  by_cases hzero : offset = 0
  · rw [if_pos hzero, hzero]
    rfl
  · rw [if_neg hzero]
    dsimp only
    by_cases hneg : offset < 0
    · rw [if_pos hneg, readOffset_sign (.inr rfl) (by omega), hminutes, if_pos rfl,
        Int.ofNat_natAbs_of_nonpos (by omega), Int.neg_neg]
    · rw [if_neg hneg, readOffset_sign (.inl rfl) (by omega), hminutes, if_neg (by decide),
        Int.natAbs_of_nonneg (by omega)]

theorem of?_self (t : DateTime) :
    of? t.date t.hour t.minute t.second t.nanosecond t.offset = some t := by
  simp only [of?]
  rw [dif_pos t.time_bounds, dif_pos t.offset_bounds]

/-- The seconds' fraction; none for a whole second. -/
def fraction (nanosecond : Nat) : List Char :=
  if nanosecond = 0 then [] else '.' :: dropZeros (paddedDigits 9 nanosecond)

theorem readSubsecond_fraction {n : Nat} (h : n < 10 ^ 9) (offset : Int) :
    readSubsecond (fraction n ++ renderOffset offset) = .ok (n, renderOffset offset) := by
  simp only [fraction]
  by_cases hzero : n = 0
  · rw [if_pos hzero, hzero, List.nil_append, readSubsecond_zero]
  · rw [if_neg hzero, readSubsecond_places hzero h]

/-- The characters of a moment's text. -/
def characters (t : DateTime) : List Char :=
  paddedDigits 4 t.date.year.natAbs ++ '-' :: (paddedDigits 2 t.date.month ++
    '-' :: (paddedDigits 2 t.date.day ++ 'T' :: (paddedDigits 2 t.hour ++
      ':' :: (paddedDigits 2 t.minute ++ ':' :: (paddedDigits 2 t.second ++
        (fraction t.nanosecond ++ renderOffset t.offset))))))

theorem parseBytes_characters {t : DateTime} (hyear : 0 ≤ t.date.year)
    (hlt : t.offset.natAbs < 24 * 3600) (hwhole : t.offset % 60 = 0) :
    parseBytes t.characters = .ok t := by
  have hday := t.date.day_le
  have hmonth := t.date.month_bounds
  have hyears := t.date.year_bounds
  obtain ⟨hhour, hminute, hsecond, hnanosecond⟩ := t.time_bounds
  have hnatAbs : (t.date.year.natAbs : Int) = t.date.year := Int.natAbs_of_nonneg hyear
  have hmonthZero : t.date.month ≠ 0 := by omega
  have hmonthLast : ¬t.date.month > 12 := by omega
  have hhourLast : ¬t.hour > 23 := by omega
  have hminuteLast : ¬t.minute > 59 := by omega
  have hleap : t.second ≠ 60 := by omega
  simp only [parseBytes, characters]
  simp only [bind, Except.bind, pure, Except.pure, literal_cons,
    fixedDigits_paddedDigits (by decide) (by omega : t.date.year.natAbs < 10 ^ 4),
    fixedDigits_paddedDigits (by decide) (by omega : t.date.month < 10 ^ 2),
    fixedDigits_paddedDigits (by decide) (by omega : t.date.day < 10 ^ 2),
    fixedDigits_paddedDigits (by decide) (by omega : t.hour < 10 ^ 2),
    fixedDigits_paddedDigits (by decide) (by omega : t.minute < 10 ^ 2),
    fixedDigits_paddedDigits (by decide) (by omega : t.second < 10 ^ 2),
    readSubsecond_fraction hnanosecond, readOffset_renderOffset hlt hwhole, hnatAbs,
    Date.of?_self, of?_self, if_neg hmonthZero, if_neg hmonthLast, if_neg hhourLast,
    if_neg hminuteLast, if_neg hleap, List.isEmpty_nil, Bool.not_true, Bool.false_eq_true,
    if_false, decide_eq_false hleap, Bool.false_and]

theorem ascii_of_isDigit {c : Char} (h : c.isDigit = true) : c.toNat < 128 := by
  have hle := (Char.isDigit_iff_toNat.1 h).2
  exact Nat.lt_of_le_of_lt hle (by decide)

theorem ascii_of_mem_paddedDigits {width n : Nat} {c : Char} (h : c ∈ paddedDigits width n) :
    c.toNat < 128 :=
  ascii_of_isDigit (isDigit_of_mem_paddedDigits h)

theorem ascii_of_mem_fraction {n : Nat} {c : Char} (h : c ∈ fraction n) : c.toNat < 128 := by
  simp only [fraction] at h
  by_cases hzero : n = 0
  · rw [if_pos hzero] at h
    cases h
  · rw [if_neg hzero, List.mem_cons] at h
    rcases h with rfl | h
    · decide
    · exact ascii_of_isDigit
        (isDigit_of_mem_dropZeros (fun _ hc => isDigit_of_mem_paddedDigits hc) c h)

theorem ascii_of_mem_renderOffset {offset : Int} {c : Char} (h : c ∈ renderOffset offset) :
    c.toNat < 128 := by
  simp only [renderOffset] at h
  by_cases hzero : offset = 0
  · rw [if_pos hzero, List.mem_singleton] at h
    rw [h]
    decide
  · rw [if_neg hzero, List.cons_append, List.mem_cons, List.mem_append, List.mem_cons] at h
    rcases h with h | h | rfl | h
    · rw [h]
      split <;> decide
    · exact ascii_of_mem_paddedDigits h
    · decide
    · exact ascii_of_mem_paddedDigits h

theorem ascii_of_mem_characters (t : DateTime) : ∀ c ∈ t.characters, c.toNat < 128 := by
  have hdigits {width n : Nat} : ∀ c ∈ paddedDigits width n, c.toNat < 128 := fun _ hc =>
    ascii_of_mem_paddedDigits hc
  simp only [characters]
  simp only [List.forall_mem_append, List.forall_mem_cons]
  exact ⟨hdigits, by decide, hdigits, by decide, hdigits, by decide, hdigits, by decide, hdigits,
    by decide, hdigits, fun _ hc => ascii_of_mem_fraction hc,
    fun _ hc => ascii_of_mem_renderOffset hc⟩

theorem render_eq {t : DateTime} (hyear : 0 ≤ t.date.year) (hlt : t.offset.natAbs < 24 * 3600)
    (hwhole : t.offset % 60 = 0) : t.render = .ok (String.ofList t.characters) := by
  have hyears := t.date.year_bounds
  simp only [render]
  rw [if_neg (by omega), if_neg (by omega), if_neg (by omega)]
  simp only [Date.render, Date.renderYear, characters, fraction]
  rw [if_neg (by omega)]
  simp only [← String.ofList_append, List.append_assoc, List.cons_append]

theorem parse_of_ascii {cs : List Char} (h : ∀ c ∈ cs, c.toNat < 128) :
    parse (String.ofList cs) = parseBytes cs := by
  simp only [parse]
  rw [bytes_of_ascii h]

theorem bounds_of_render {t : DateTime} {text : String} (h : t.render = .ok text) :
    0 ≤ t.date.year ∧ t.offset.natAbs < 24 * 3600 ∧ t.offset % 60 = 0 := by
  simp only [render] at h
  by_cases hyear : t.date.year < 0 ∨ 9999 < t.date.year
  · rw [if_pos hyear] at h
    cases h
  · by_cases hday : 24 * 3600 ≤ t.offset.natAbs
    · rw [if_neg hyear, if_pos hday] at h
      cases h
    · by_cases hminute : t.offset % 60 ≠ 0
      · rw [if_neg hyear, if_neg hday, if_pos hminute] at h
        cases h
      · omega

/-- The text of a moment reads as the moment. -/
theorem parse_render {t : DateTime} {text : String} (h : t.render = .ok text) :
    parse text = .ok t := by
  obtain ⟨hyear, hlt, hwhole⟩ := bounds_of_render h
  rw [render_eq hyear hlt hwhole] at h
  cases h
  rw [parse_of_ascii t.ascii_of_mem_characters]
  exact parseBytes_characters hyear hlt hwhole

theorem of?_eq_some {date : Date} {hour minute second nanosecond : Nat} {offset : Int} {t : DateTime}
    (h : of? date hour minute second nanosecond offset = some t) :
    t.date = date ∧ t.offset = offset := by
  simp only [of?] at h
  split_ifs at h
  cases h
  exact ⟨rfl, rfl⟩

theorem range_of_readOffset {s rest : List Char} {offset : Int}
    (h : readOffset s = .ok (offset, rest)) : offset.natAbs < 24 * 3600 ∧ offset % 60 = 0 := by
  unfold readOffset at h
  split at h
  case h_1 =>
    cases h
    decide
  case h_2 =>
    cases h
    decide
  case h_3 sign _ _ _ =>
    by_cases hsign : sign = '+' ∨ sign = '-'
    · rw [if_pos hsign] at h
      obtain ⟨⟨hours, _⟩, hhours, h⟩ := bind_eq_ok.1 h
      obtain ⟨_, -, h⟩ := bind_eq_ok.1 h
      obtain ⟨⟨minutes, _⟩, -, h⟩ := bind_eq_ok.1 h
      obtain ⟨hminutes, h⟩ := throwIf_eq_ok.1 h
      have hhour := (bounds_of_oneOf hhours).2
      dsimp only at hhour hminutes h
      cases h
      split <;> omega
    · rw [if_neg hsign] at h
      cases h
  case h_4 => cases h

/-- The year and the offset of a moment are the ones that its text gives. -/
theorem parts_of_parseBytes {bytewise : List Char} {t : DateTime} (h : parseBytes bytewise = .ok t) :
    0 ≤ t.date.year ∧ ∃ s rest, readOffset s = .ok (t.offset, rest) := by
  unfold parseBytes at h
  obtain ⟨⟨year, _⟩, -, h⟩ := bind_eq_ok.1 h
  obtain ⟨_, -, h⟩ := bind_eq_ok.1 h
  obtain ⟨⟨month, _⟩, -, h⟩ := bind_eq_ok.1 h
  obtain ⟨-, h⟩ := throwIf_eq_ok.1 h
  obtain ⟨_, -, h⟩ := bind_eq_ok.1 h
  obtain ⟨⟨day, rest⟩, -, h⟩ := bind_eq_ok.1 h
  cases rest with
  | nil => cases h
  | cons separator rest =>
    obtain ⟨_, -, h⟩ := bind_eq_ok.1 h
    obtain ⟨⟨hour, _⟩, -, h⟩ := bind_eq_ok.1 h
    obtain ⟨_, -, h⟩ := bind_eq_ok.1 h
    obtain ⟨⟨minute, _⟩, -, h⟩ := bind_eq_ok.1 h
    obtain ⟨_, -, h⟩ := bind_eq_ok.1 h
    obtain ⟨⟨second, _⟩, -, h⟩ := bind_eq_ok.1 h
    obtain ⟨⟨nanosecond, _⟩, -, h⟩ := bind_eq_ok.1 h
    obtain ⟨⟨offset, _⟩, hoffset, h⟩ := bind_eq_ok.1 h
    obtain ⟨-, h⟩ := throwIf_eq_ok.1 h
    obtain ⟨-, h⟩ := throwIf_eq_ok.1 h
    dsimp only at h
    split at h
    · rename_i date hdate
      obtain ⟨-, h⟩ := throwIf_eq_ok.1 h
      obtain ⟨-, h⟩ := throwIf_eq_ok.1 h
      split at h
      · rename_i moment hmoment
        obtain ⟨-, h⟩ := throwIf_eq_ok.1 h
        cases h
        obtain ⟨hday, hzone⟩ := of?_eq_some hmoment
        rw [hday, Date.year_of_of? hdate, hzone]
        exact ⟨Int.natCast_nonneg year, _, _, hoffset⟩
      · cases h
    · cases h

/-- A moment that a text gives can be written again. -/
theorem range_of_parse {text : String} {t : DateTime} (h : parse text = .ok t) :
    (0 ≤ t.date.year ∧ t.date.year ≤ 9999) ∧ t.offset.natAbs < 24 * 3600 ∧ t.offset % 60 = 0 := by
  obtain ⟨hyear, _, _, hoffset⟩ := parts_of_parseBytes h
  exact ⟨⟨hyear, t.date.year_bounds.2⟩, range_of_readOffset hoffset⟩

end DateTime

end StatementGate
