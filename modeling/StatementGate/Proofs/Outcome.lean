import Mathlib.Data.List.Forall2

/-! # Outcomes

Computations that may fail, taken apart at what they bind. -/

namespace StatementGate

variable {ε α β : Type}

theorem bind_eq_ok {x : Except ε α} {f : α → Except ε β} {b : β} :
    x >>= f = .ok b ↔ ∃ a, x = .ok a ∧ f a = .ok b := by
  cases x with
  | error e =>
    constructor
    · intro h
      cases h
    · rintro ⟨_, h, _⟩
      cases h
  | ok a =>
    constructor
    · intro h
      exact ⟨a, rfl, h⟩
    · rintro ⟨_, ha, h⟩
      cases ha
      exact h

/-- Two checks pass one after the other. -/
theorem andThen_eq_ok {x : Except ε Unit} {y : Except ε β} {b : β} :
    (x >>= fun _ => y) = .ok b ↔ x = .ok () ∧ y = .ok b := by
  rw [bind_eq_ok]
  exact ⟨fun ⟨_, hx, hy⟩ => ⟨hx, hy⟩, fun ⟨hx, hy⟩ => ⟨(), hx, hy⟩⟩

theorem bind_eq_error {x : Except ε α} {f : α → Except ε β} {e : ε} :
    x >>= f = .error e ↔ x = .error e ∨ ∃ a, x = .ok a ∧ f a = .error e := by
  cases x with
  | error e' => simp [bind, Except.bind]
  | ok a => simp [bind, Except.bind]

theorem map_eq_ok {x : Except ε α} {f : α → β} {b : β} :
    f <$> x = .ok b ↔ ∃ a, x = .ok a ∧ f a = b := by
  cases x with
  | error e => simp
  | ok a => simp

theorem map_eq_error {x : Except ε α} {f : α → β} {e : ε} :
    f <$> x = .error e ↔ x = .error e := by
  cases x with
  | error e => simp
  | ok a => simp

theorem mapError_eq_ok {ε' : Type} {f : ε → ε'} {x : Except ε α} {a : α} :
    x.mapError f = .ok a ↔ x = .ok a := by
  cases x <;> simp [Except.mapError]

/-- What is thrown under a condition leaves the rest for when it does not hold. -/
theorem throwIf_eq_ok {c : Prop} [Decidable c] {e : ε} {f : Unit → Except ε β} {b : β} :
    (if c then throw e >>= f else f ()) = .ok b ↔ ¬c ∧ f () = .ok b := by
  by_cases hc : c
  · rw [if_pos hc]
    constructor
    · intro h
      cases h
    · rintro ⟨hnot, _⟩
      exact absurd hc hnot
  · rw [if_neg hc]
    exact ⟨fun h => ⟨hc, h⟩, fun h => h.2⟩

theorem throwIf_eq_error {c : Prop} [Decidable c] {e e' : ε} {f : Unit → Except ε β} :
    (if c then throw e >>= f else f ()) = .error e' ↔ (c ∧ e' = e) ∨ (¬c ∧ f () = .error e') := by
  by_cases hc : c
  · rw [if_pos hc]
    constructor
    · intro h
      cases h
      exact .inl ⟨hc, rfl⟩
    · rintro (⟨_, rfl⟩ | ⟨hnot, _⟩)
      · rfl
      · exact absurd hc hnot
  · rw [if_neg hc]
    exact ⟨fun h => .inr ⟨hc, h⟩, fun h => h.elim (fun h => absurd h.1 hc) (·.2)⟩

/-- A list is computed item by item. -/
theorem mapM_eq_ok {f : α → Except ε β} {as : List α} {bs : List β} :
    as.mapM f = .ok bs ↔ List.Forall₂ (fun a b => f a = .ok b) as bs := by
  induction as generalizing bs with
  | nil =>
    rw [List.forall₂_nil_left_iff]
    constructor
    · intro h
      cases h
      rfl
    · rintro rfl
      rfl
  | cons a as ih =>
    rw [List.mapM_cons, bind_eq_ok, List.forall₂_cons_left_iff]
    refine exists_congr fun b => ?_
    simp only [bind_eq_ok]
    constructor
    · rintro ⟨hb, rest, hrest, h⟩
      cases h
      exact ⟨rest, hb, ih.1 hrest, rfl⟩
    · rintro ⟨rest, hb, hrest, rfl⟩
      exact ⟨hb, rest, ih.2 hrest, rfl⟩

theorem mapM_eq_some {f : α → Option β} {as : List α} {bs : List β}
    (h : List.Forall₂ (fun a b => f a = some b) as bs) : as.mapM f = some bs := by
  induction h with
  | nil => rfl
  | cons hab _ ih =>
    rw [List.mapM_cons, hab, ih]
    rfl

theorem exists_of_mem_forall₂ {R : α → β → Prop} {as : List α} {bs : List β}
    (h : List.Forall₂ R as bs) {b : β} (hb : b ∈ bs) : ∃ a ∈ as, R a b := by
  induction h with
  | nil => cases hb
  | @cons a b' as bs hab _ ih =>
    rcases List.mem_cons.1 hb with rfl | hb
    · exact ⟨a, List.mem_cons_self, hab⟩
    · obtain ⟨a', ha', hr⟩ := ih hb
      exact ⟨a', List.mem_cons_of_mem a ha', hr⟩

/-- Every computed item comes of one of the list. -/
theorem exists_of_mem_mapM {f : α → Except ε β} {as : List α} {bs : List β}
    (h : as.mapM f = .ok bs) {b : β} (hb : b ∈ bs) : ∃ a ∈ as, f a = .ok b :=
  exists_of_mem_forall₂ (mapM_eq_ok.1 h) hb

theorem exists_of_mapM {f : α → Except ε β} {as : List α} {bs : List β}
    (h : as.mapM f = .ok bs) {a : α} (ha : a ∈ as) : ∃ b, f a = .ok b := by
  rw [mapM_eq_ok] at h
  induction h with
  | nil => cases ha
  | @cons a' b as bs hab _ ih =>
    rcases List.mem_cons.1 ha with rfl | ha
    · exact ⟨b, hab⟩
    · exact ih ha

theorem exists_forall₂ {r : α → β → Prop} {as : List α} (h : ∀ a ∈ as, ∃ b, r a b) :
    ∃ bs, List.Forall₂ r as bs := by
  induction as with
  | nil => exact ⟨[], .nil⟩
  | cons a as ih =>
    rw [List.forall_mem_cons] at h
    obtain ⟨b, hb⟩ := h.1
    obtain ⟨bs, hbs⟩ := ih h.2
    exact ⟨b :: bs, .cons hb hbs⟩

theorem exists_mapM {f : α → Except ε β} {as : List α} (h : ∀ a ∈ as, ∃ b, f a = .ok b) :
    ∃ bs, as.mapM f = .ok bs :=
  (exists_forall₂ h).imp fun _ => mapM_eq_ok.2

theorem eq_map_of_mapM {f : α → Except ε β} {g : α → β} {as : List α} {bs : List β}
    (h : as.mapM f = .ok bs) (hg : ∀ a ∈ as, ∀ b, f a = .ok b → b = g a) : bs = as.map g := by
  rw [mapM_eq_ok] at h
  induction h with
  | nil => rfl
  | @cons a b as bs hab _ ih =>
    rw [List.forall_mem_cons] at hg
    rw [List.map_cons, ← hg.1 b hab, ← ih hg.2]

/-- A list is mapped as a whole, or fails as one of its items does. -/
theorem mapM_cases (f : α → Except ε β) (as : List α) :
    (∃ bs, as.mapM f = .ok bs) ∨ ∃ a ∈ as, ∃ e, f a = .error e ∧ as.mapM f = .error e := by
  induction as with
  | nil => exact .inl ⟨[], rfl⟩
  | cons a as ih =>
    rw [List.mapM_cons]
    cases hfa : f a with
    | error e => exact .inr ⟨a, List.mem_cons_self, e, hfa, rfl⟩
    | ok b =>
      rcases ih with ⟨bs, hbs⟩ | ⟨a', hmem, e, he, hfails⟩
      · exact .inl ⟨b :: bs, by rw [hbs]; rfl⟩
      · exact .inr ⟨a', List.mem_cons_of_mem a hmem, e, he, by rw [hfails]; rfl⟩

theorem forM_eq_ok {f : α → Except ε Unit} {as : List α} :
    as.forM f = .ok () ↔ ∀ a ∈ as, f a = .ok () := by
  induction as with
  | nil => simp [List.forM, pure, Except.pure]
  | cons a as ih =>
    rw [List.forall_mem_cons, ← ih]
    change (f a >>= fun _ => as.forM f) = .ok () ↔ _
    rw [bind_eq_ok]
    constructor
    · rintro ⟨_, ha, has⟩
      exact ⟨ha, has⟩
    · rintro ⟨ha, has⟩
      exact ⟨_, ha, has⟩

/-- The computation gives a result. -/
def Succeeds (x : Except ε α) : Prop := ∃ a, x = .ok a

theorem succeeds_ok (a : α) : Succeeds (.ok a : Except ε α) := ⟨a, rfl⟩

theorem not_succeeds_error (e : ε) : ¬Succeeds (.error e : Except ε α) := by
  rintro ⟨_, ⟨⟩⟩

theorem succeeds_ite {c : Prop} [Decidable c] {a : α} {e : ε} :
    Succeeds (if c then .ok a else .error e) ↔ c := by
  by_cases hc : c
  · simp only [hc, if_true, succeeds_ok]
  · simp only [hc, if_false, not_succeeds_error]

theorem succeeds_map {x : Except ε α} {f : α → β} : Succeeds (f <$> x) ↔ Succeeds x := by
  simp [Succeeds, map_eq_ok]

/-- What goes on after a result succeeds under a condition that does not depend on the result. -/
theorem succeeds_bind {x : Except ε α} {f : α → Except ε β} {P : Prop}
    (h : ∀ a, x = .ok a → (Succeeds (f a) ↔ P)) : Succeeds (x >>= f) ↔ Succeeds x ∧ P := by
  constructor
  · rintro ⟨b, hb⟩
    obtain ⟨a, ha, hb⟩ := bind_eq_ok.1 hb
    exact ⟨⟨a, ha⟩, (h a ha).1 ⟨b, hb⟩⟩
  · rintro ⟨⟨a, ha⟩, hp⟩
    obtain ⟨b, hb⟩ := (h a ha).2 hp
    exact ⟨b, bind_eq_ok.2 ⟨a, ha, hb⟩⟩

/-- Nothing fails after the result. -/
theorem succeeds_bind_ok {x : Except ε α} {f : α → β} :
    Succeeds (x >>= fun a => .ok (f a)) ↔ Succeeds x :=
  (succeeds_bind fun a _ => iff_of_true (succeeds_ok (f a)) trivial).trans (and_iff_left trivial)

theorem succeeds_throwIf {c : Prop} [Decidable c] {e : ε} {f : Unit → Except ε β} :
    Succeeds (if c then throw e >>= f else f ()) ↔ ¬c ∧ Succeeds (f ()) := by
  simp only [Succeeds, throwIf_eq_ok, exists_and_left]

theorem succeeds_mapM {f : α → Except ε β} {as : List α} :
    Succeeds (as.mapM f) ↔ ∀ a ∈ as, Succeeds (f a) :=
  ⟨fun ⟨_, h⟩ _ ha => exists_of_mapM h ha, exists_mapM⟩

/-- Lists that a computation does not tell apart item by item, it does not tell apart. -/
theorem mapM_congr {f : α → Except ε β} {as as' : List α}
    (h : List.Forall₂ (fun a a' => f a = f a') as as') : as.mapM f = as'.mapM f := by
  induction h with
  | nil => rfl
  | cons ha _ ih => rw [List.mapM_cons, List.mapM_cons, ha, ih]

/-- Whatever the computation fails with is an error of `E`. -/
def FailsOnly (E : ε → Prop) (x : Except ε α) : Prop := ∀ e, x = .error e → E e

namespace FailsOnly

variable {E F : ε → Prop} {x : Except ε α}

theorem ok (a : α) : FailsOnly E (.ok a) := fun _ h => nomatch h

theorem error {e : ε} (h : E e) : FailsOnly E (.error e : Except ε α) := by
  rintro _ ⟨⟩
  exact h

theorem imp (hx : FailsOnly E x) (h : ∀ e, E e → F e) : FailsOnly F x := fun e he => h e (hx e he)

theorem bind (hx : FailsOnly E x) {f : α → Except ε β} (hf : ∀ a, FailsOnly E (f a)) :
    FailsOnly E (x >>= f) := by
  cases x with
  | error e => exact error (hx e rfl)
  | ok a => exact hf a

end FailsOnly

/-- The second computation does as the first, unless that fails with an error of `E`. -/
def SameUnless (E : ε → Prop) (x x' : Except ε α) : Prop := x' = x ∨ ∃ e, E e ∧ x = .error e

namespace SameUnless

variable {E : ε → Prop} {x x' : Except ε α}

theorem refl (x : Except ε α) : SameUnless E x x := .inl rfl

theorem error {e : ε} (h : E e) (x' : Except ε α) : SameUnless E (.error e) x' :=
  .inr ⟨e, h, rfl⟩

theorem bind (hx : SameUnless E x x') {f f' : α → Except ε β}
    (hf : ∀ a, SameUnless E (f a) (f' a)) : SameUnless E (x >>= f) (x' >>= f') := by
  rcases hx with hsame | ⟨e, he, herror⟩
  · subst hsame
    cases x' with
    | error e => exact refl _
    | ok a => exact hf a
  · subst herror
    exact error he _

end SameUnless

/-- Two computations of which both succeed, whatever with, or both fail with the same error. -/
inductive FailAlike : Except ε α → Except ε β → Prop
  | ok (a : α) (b : β) : FailAlike (.ok a) (.ok b)
  | error (e : ε) : FailAlike (.error e) (.error e)

namespace FailAlike

variable {γ δ : Type} {x : Except ε α} {y : Except ε β} {z : Except ε γ}

theorem refl (x : Except ε α) : FailAlike x x := by
  cases x with
  | error e => exact .error e
  | ok a => exact .ok a a

theorem symm (h : FailAlike x y) : FailAlike y x := by
  cases h with
  | ok a b => exact .ok b a
  | error e => exact .error e

theorem trans (hxy : FailAlike x y) (hyz : FailAlike y z) : FailAlike x z := by
  cases hxy with
  | ok a b =>
    cases hyz with
    | ok _ c => exact .ok a c
  | error e =>
    cases hyz with
    | error => exact .error e

/-- Results that are only made into others keep the outcome. -/
theorem of_map (f : α → β) (x : Except ε α) : FailAlike (f <$> x) x := by
  cases x with
  | error e => exact .error e
  | ok a => exact .ok (f a) a

/-- Computations that fail alike from whatever they bind fail alike as a whole. -/
theorem bind (h : FailAlike x y) {f : α → Except ε γ} {g : β → Except ε δ}
    (hfg : ∀ a b, FailAlike (f a) (g b)) : FailAlike (x >>= f) (y >>= g) := by
  cases h with
  | ok a b => exact hfg a b
  | error e => exact .error e

/-- What is bound first is the same on both sides. -/
theorem bind_same (x : Except ε α) {f : α → Except ε β} {g : α → Except ε γ}
    (hfg : ∀ a, FailAlike (f a) (g a)) : FailAlike (x >>= f) (x >>= g) := by
  cases x with
  | error e => exact .error e
  | ok a => exact hfg a

theorem throwIf {c : Prop} [Decidable c] (e : ε) {f : Unit → Except ε α} {g : Unit → Except ε β}
    (h : FailAlike (f ()) (g ())) :
    FailAlike (if c then throw e >>= f else f ()) (if c then throw e >>= g else g ()) := by
  by_cases hc : c
  · rw [if_pos hc, if_pos hc]
    exact .error e
  · rw [if_neg hc, if_neg hc]
    exact h

theorem mapM {f : α → Except ε γ} {g : β → Except ε δ} {as : List α} {bs : List β}
    (h : List.Forall₂ (fun a b => FailAlike (f a) (g b)) as bs) :
    FailAlike (as.mapM f) (bs.mapM g) := by
  induction h with
  | nil => exact .ok [] []
  | cons ha _ ih =>
    rw [List.mapM_cons, List.mapM_cons]
    exact ha.bind fun _ _ => ih.bind fun _ _ => .ok _ _

end FailAlike

/-- Two computations that fail alike or succeed alike. -/
inductive Agree (E : ε → ε → Prop) (A : α → α → Prop) : Except ε α → Except ε α → Prop
  | error {e e' : ε} (h : E e e') : Agree E A (.error e) (.error e')
  | ok {a a' : α} (h : A a a') : Agree E A (.ok a) (.ok a')

namespace Agree

variable {E : ε → ε → Prop} {A : α → α → Prop} {B : β → β → Prop}

theorem refl (hE : ∀ e, E e e) (hA : ∀ a, A a a) (x : Except ε α) : Agree E A x x := by
  cases x with
  | error e => exact .error (hE e)
  | ok a => exact .ok (hA a)

theorem of_ok {a a' : α} (h : Agree E A (.ok a) (.ok a')) : A a a' := by
  cases h with
  | ok h => exact h

theorem trans (hE : ∀ {e e' e''}, E e e' → E e' e'' → E e e'') {x y z : Except ε α}
    (hxy : Agree E Eq x y) (hyz : Agree E Eq y z) : Agree E Eq x z := by
  cases hxy with
  | error h =>
    cases hyz with
    | error h' => exact .error (hE h h')
  | ok h =>
    cases hyz with
    | ok h' => exact .ok (h.trans h')

theorem eq_ok_iff {x y : Except ε α} (h : Agree E Eq x y) {a : α} : x = .ok a ↔ y = .ok a := by
  cases h with
  | error _ => simp
  | ok h => rw [h]

/-- Computations go on alike from what they bind. -/
theorem bind {x x' : Except ε α} (h : Agree E A x x') {f f' : α → Except ε β}
    (hf : ∀ a a', A a a' → Agree E B (f a) (f' a')) : Agree E B (x >>= f) (x' >>= f') := by
  cases h with
  | error h => exact .error h
  | ok h => exact hf _ _ h

/-- One computation goes on alike in two ways. -/
theorem bind_same (hE : ∀ e, E e e) (x : Except ε α) {f f' : α → Except ε β}
    (hf : ∀ a, Agree E B (f a) (f' a)) : Agree E B (x >>= f) (x >>= f') := by
  apply (refl hE (A := Eq) (fun _ => rfl) x).bind
  rintro a _ rfl
  exact hf a

theorem throwIf {c c' : Prop} [Decidable c] [Decidable c'] (hc : c ↔ c') {e e' : ε} (he : E e e')
    {f f' : Unit → Except ε α} (h : Agree E A (f ()) (f' ())) :
    Agree E A (if c then throw e >>= f else f ()) (if c' then throw e' >>= f' else f' ()) := by
  by_cases hholds : c
  · rw [if_pos hholds, if_pos (hc.1 hholds)]
    exact .error he
  · rw [if_neg hholds, if_neg (mt hc.2 hholds)]
    exact h

theorem mapM {f f' : α → Except ε β} {as as' : List α}
    (h : List.Forall₂ (fun a a' => Agree E B (f a) (f' a')) as as') :
    Agree E (List.Forall₂ B) (as.mapM f) (as'.mapM f') := by
  induction h with
  | nil => exact .ok .nil
  | cons ha _ ih =>
    rw [List.mapM_cons, List.mapM_cons]
    exact ha.bind fun _ _ hb => ih.bind fun _ _ hbs => .ok (.cons hb hbs)

end Agree

end StatementGate
