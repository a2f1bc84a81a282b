import Assessment.Proofs.Numeric.Reordering
import Mathlib.Data.Rat.Floor
import Mathlib.Tactic.FieldSimp
import Mathlib.Tactic.Linarith
import Mathlib.Tactic.Push

/-!
# Division rounded down

The quotient rounded down is the one rounded toward zero, less one where the division leaves a
remainder and the signs differ. It fits in 64 bits unless the least integer is divided by minus one.
Its remainder lies between zero and the divisor, so it always fits; but it is what is left of the
dividend after a multiple of the divisor, and that multiple may lie beyond 64 bits.

The code is `floor_div` and `floor_mod` behind integerDivide and integerModulus. The second is
computed as what is left after the product of divisor and quotient, with a checked product, although
the comment of `floor_mod` promises the remainder that matches `floor_div`.

* `floor_eq_of_remainder`: the quotient rounded down is the one whose remainder is between zero and
  the divisor.
* `floorDiv?_eq`: the quotient is the one without bounds, when it fits.
* `floor_division`: when there are a quotient and a remainder.
-/

namespace Assessment.Numeric

/-! ## Without bounds -/

/-- An integer between zero and a divisor: a remainder of a quotient rounded down. -/
def IsRemainder (r n : ℤ) : Prop := 0 ≤ r ∧ r < n ∨ n < r ∧ r ≤ 0

variable {m n q r : ℤ} {a b : Int64}

/-- There is one quotient whose remainder lies between zero and the divisor. -/
theorem floor_eq_of_remainder (h : m = n * q + r) (hr : IsRemainder r n) :
    ⌊(m : ℚ) / n⌋ = q := by
  have hn : n ≠ 0 := by
    rintro rfl
    rcases hr with hr | hr <;> omega
  have hn' : (n : ℚ) ≠ 0 := by exact_mod_cast hn
  have hdiv : (m : ℚ) / n = q + r / n := by
    rw [h]
    push_cast
    field_simp
  rw [hdiv, Int.floor_intCast_add, add_eq_left, Int.floor_eq_zero_iff, Set.mem_Ico]
  rcases hr with ⟨hr₀, hr⟩ | ⟨hr, hr₀⟩
  · have hpos : (0 : ℚ) < n := by exact_mod_cast hr₀.trans_lt hr
    rw [div_lt_one hpos]
    exact ⟨div_nonneg (by exact_mod_cast hr₀) hpos.le, by exact_mod_cast hr⟩
  · have hneg : (n : ℚ) < 0 := by exact_mod_cast hr.trans_le hr₀
    rw [div_lt_one_of_neg hneg]
    exact ⟨div_nonneg_of_nonpos (by exact_mod_cast hr₀) hneg.le, by exact_mod_cast hr⟩

/-- The remainder of the quotient rounded toward zero has the sign of the dividend and is nearer to
zero than the divisor. -/
theorem tmod_cases (m : ℤ) (hn : n ≠ 0) :
    (0 ≤ m ∧ 0 ≤ m.tmod n ∨ m < 0 ∧ m.tmod n ≤ 0) ∧ (m.tmod n).natAbs < n.natAbs := by
  have habs : (m.tmod n).natAbs < n.natAbs := by
    rw [Int.natAbs_tmod]
    exact Nat.mod_lt _ (Int.natAbs_pos.2 hn)
  refine ⟨?_, habs⟩
  rcases lt_or_ge m 0 with hm | hm
  · have hneg := Int.tmod_nonneg n (a := -m) (by omega)
    rw [Int.neg_tmod] at hneg
    exact .inr ⟨hm, by omega⟩
  · exact .inl ⟨hm, Int.tmod_nonneg n hm⟩

/-- The quotient rounded toward zero is not above zero when the signs differ. -/
theorem tdiv_nonpos_of_signs (h : ¬(m < 0 ↔ n < 0)) : m.tdiv n ≤ 0 := by
  rcases lt_or_ge m 0 with hm | hm
  · have hneg := Int.tdiv_nonneg (a := -m) (b := n) (by omega) (by omega)
    rw [Int.neg_tdiv] at hneg
    omega
  · have hneg := Int.tdiv_nonneg (a := m) (b := -n) hm (by omega)
    rw [Int.tdiv_neg] at hneg
    omega

/-- The quotient rounded toward zero, less one where the division leaves a remainder and the signs
differ. -/
def correctedQuotient (m n : ℤ) : ℤ :=
  if m.tmod n ≠ 0 ∧ decide (m < 0) ≠ decide (n < 0) then m.tdiv n - 1 else m.tdiv n

/-- **The correction of the sign** leaves a remainder between zero and the divisor. -/
theorem isRemainder_correctedQuotient (m : ℤ) (hn : n ≠ 0) :
    IsRemainder (m - n * correctedQuotient m n) n := by
  have hdiv := Int.mul_tdiv_add_tmod m n
  obtain ⟨hsign, habs⟩ := tmod_cases m hn
  simp only [correctedQuotient, ne_eq, decide_eq_decide]
  unfold IsRemainder
  split_ifs with h
  · rw [mul_sub, mul_one]
    omega
  · omega

theorem floor_eq_correctedQuotient (m : ℤ) (hn : n ≠ 0) :
    ⌊(m : ℚ) / n⌋ = correctedQuotient m n :=
  floor_eq_of_remainder (add_sub_cancel _ _).symm (isRemainder_correctedQuotient m hn)

/-- A quotient is out of the range of its dividend for one dividend and one divisor only. -/
theorem eq_of_quotient_not_mem (hm : -2 ^ 63 ≤ m ∧ m < 2 ^ 63) (h : m = n * q + r)
    (hr : IsRemainder r n) (hq : q < -2 ^ 63 ∨ 2 ^ 63 ≤ q) : m = -2 ^ 63 ∧ n = -1 := by
  rcases hr with ⟨hr₀, hr⟩ | ⟨hr, hr₀⟩
  · exfalso
    rcases hq with hq | hq <;> nlinarith
  · rcases hq with hq | hq
    · exfalso
      nlinarith
    · have hn : n = -1 := by nlinarith
      subst hn
      omega

/-- The quotient of two integers rounded down, without bounds. -/
def floorQuotient (a b : Int64) : ℤ := ⌊(a.toInt : ℚ) / b.toInt⌋

/-- The remainder of the quotient rounded down, without bounds. -/
def floorRemainder (a b : Int64) : ℤ := a.toInt - b.toInt * floorQuotient a b

/-- The remainder lies between zero and the divisor. -/
theorem isRemainder_floorRemainder (a : Int64) (hb : b ≠ 0) :
    IsRemainder (floorRemainder a b) b.toInt := by
  have hn := toInt_ne_zero hb
  rw [floorRemainder, floorQuotient, floor_eq_correctedQuotient _ hn]
  exact isRemainder_correctedQuotient _ hn

/-! ## In 64 bits -/

theorem fit?_eq_none_iff_range (n : ℤ) : fit? n = none ↔ n < -2 ^ 63 ∨ 2 ^ 63 ≤ n := by
  rw [← Option.not_isSome_iff_eq_none, fit?_isSome_iff_range]
  omega

theorem exists_toInt_eq (hn : -2 ^ 63 ≤ n ∧ n < 2 ^ 63) : ∃ i : Int64, i.toInt = n := by
  obtain ⟨i, hi⟩ := Option.isSome_iff_exists.1 ((fit?_isSome_iff_range n).2 hn)
  exact ⟨i, (fit?_eq_some_iff _ _).1 hi⟩

/-- The remainder fits: it is nearer to zero than the divisor. -/
theorem exists_toInt_eq_floorRemainder (a : Int64) (hb : b ≠ 0) :
    ∃ r : Int64, r.toInt = floorRemainder a b := by
  have hrange := toInt_mem_range b
  have hr := isRemainder_floorRemainder a hb
  refine exists_toInt_eq ?_
  unfold IsRemainder at hr
  omega

/-- The quotient rounded toward zero is no further from zero than the dividend, so it can be too
great only. -/
theorem pos_of_div?_eq_none (hb : b ≠ 0) (h : div? a b = none) : 0 < a.toInt.tdiv b.toInt := by
  rw [div?, if_neg hb, fit?_eq_none_iff_range] at h
  have hrange := toInt_mem_range a
  have habs := Int.natAbs_tdiv_le_natAbs a.toInt b.toInt
  omega

/-- **The quotient** is the one without bounds, when it fits. -/
theorem floorDiv?_eq (a : Int64) (hb : b ≠ 0) : floorDiv? a b = fit? (floorQuotient a b) := by
  have hn := toInt_ne_zero hb
  rw [floorQuotient, floor_eq_correctedQuotient _ hn, correctedQuotient, floorDiv?]
  cases hq : div? a b with
  | none =>
    -- A quotient that is too great is above zero, so the signs do not differ.
    have hpos := pos_of_div?_eq_none hb hq
    have hsigns : ¬(a.toInt.tmod b.toInt ≠ 0 ∧ decide (a.toInt < 0) ≠ decide (b.toInt < 0)) := by
      rintro ⟨-, hsigns⟩
      rw [ne_eq, decide_eq_decide] at hsigns
      exact absurd (tdiv_nonpos_of_signs hsigns) (not_le.2 hpos)
    rw [if_neg hsigns]
    rw [div?, if_neg hb] at hq
    exact hq.symm
  | some q =>
    have hq' : q.toInt = a.toInt.tdiv b.toInt := by
      rw [div?, if_neg hb] at hq
      exact (fit?_eq_some_iff _ _).1 hq
    obtain ⟨r, hr⟩ : ∃ r : Int64, r.toInt = a.toInt.tmod b.toInt := by
      have hrange := toInt_mem_range b
      have habs := (tmod_cases a.toInt hn).2
      exact exists_toInt_eq (by omega)
    have hrem : rem? a b = some r := by
      rw [rem?, hq, Option.bind_some, ← hr, fit?_toInt]
    have hzero : r ≠ 0 ↔ a.toInt.tmod b.toInt ≠ 0 := by
      rw [← hr, ← Int64.toInt_zero, ne_eq, ne_eq, Int64.toInt_inj]
    rw [hrem]
    simp only [Option.bind_eq_bind, Option.bind_some, hzero]
    split_ifs with h
    · rw [sub?, hq']
      rfl
    · rw [← hq', fit?_toInt]

/-- The quotient does not fit for one dividend and one divisor. -/
theorem fit?_floorQuotient_eq_none_iff (a : Int64) (hb : b ≠ 0) :
    fit? (floorQuotient a b) = none ↔ a = Int64.minValue ∧ b = -1 := by
  have hmul : a.toInt = b.toInt * floorQuotient a b + floorRemainder a b := by
    rw [floorRemainder]
    ring
  rw [fit?_eq_none_iff_range]
  constructor
  · intro h
    obtain ⟨ha, hb⟩ :=
      eq_of_quotient_not_mem (toInt_mem_range a) hmul (isRemainder_floorRemainder a hb) h
    exact ⟨Int64.toInt_inj.1 ha, Int64.toInt_inj.1 hb⟩
  · rintro ⟨rfl, rfl⟩
    have hq : floorQuotient Int64.minValue (-1) = 2 ^ 63 :=
      floor_eq_of_remainder (r := 0) (by decide) (.inr (by decide))
    rw [hq]
    exact .inr (le_refl _)

/-- The remainder is found through the quotient and its product with the divisor. -/
theorem floorMod?_eq (hb : b ≠ 0) {r : Int64} (hr : r.toInt = floorRemainder a b) :
    floorMod? a b =
      if fit? (floorQuotient a b) = none ∨ fit? (a.toInt - r.toInt) = none then none
      else some r := by
  have hmul : b.toInt * floorQuotient a b = a.toInt - r.toInt := by
    rw [hr, floorRemainder]
    ring
  rw [floorMod?, floorDiv?_eq a hb]
  cases hq : fit? (floorQuotient a b) with
  | none => rfl
  | some q =>
    have hq' := (fit?_eq_some_iff _ _).1 hq
    have hprod : mul? b q = fit? (a.toInt - r.toInt) := by rw [mul?, hq', hmul]
    cases hp : fit? (a.toInt - r.toInt) with
    | none => simp [hprod, hp]
    | some p =>
      have hp' := (fit?_eq_some_iff _ _).1 hp
      have hsub : sub? a p = some r := by
        rw [sub?, hp', sub_sub_cancel, fit?_toInt]
      simp [hprod, hp, hsub]

/-- **Quotient and remainder.** There are none for a divisor of zero. Else the quotient is the one
rounded down, unless the least integer is divided by minus one. The remainder of that quotient lies
between zero and the divisor, so it fits; it is what there is, except in the same one case and where
the multiple of the divisor that is taken from the dividend does not fit. -/
theorem floor_division (a b : Int64) :
    (b = 0 → floorDiv? a b = none ∧ floorMod? a b = none) ∧
    (b ≠ 0 →
      floorDiv? a b = fit? (floorQuotient a b) ∧
      (floorDiv? a b = none ↔ a = Int64.minValue ∧ b = -1) ∧
      ∃ r : Int64, r.toInt = floorRemainder a b ∧
        (0 ≤ r.toInt ∧ r.toInt < b.toInt ∨ b.toInt < r.toInt ∧ r.toInt ≤ 0) ∧
        (floorMod? a b = some r ∨ floorMod? a b = none) ∧
        (floorMod? a b = none ↔
          a = Int64.minValue ∧ b = -1 ∨
            a.toInt - r.toInt < -2 ^ 63 ∨ 2 ^ 63 ≤ a.toInt - r.toInt)) := by
  constructor
  · rintro rfl
    have hquotient : floorDiv? a 0 = none := rfl
    exact ⟨hquotient, by rw [floorMod?, hquotient]; rfl⟩
  · intro hb
    obtain ⟨r, hr⟩ := exists_toInt_eq_floorRemainder a hb
    have hfits := fit?_floorQuotient_eq_none_iff a hb
    refine ⟨floorDiv?_eq a hb, by rw [floorDiv?_eq a hb, hfits], r, hr, ?_, ?_, ?_⟩
    · rw [hr]
      exact isRemainder_floorRemainder a hb
    · rw [floorMod?_eq hb hr]
      split_ifs
      · exact .inr rfl
      · exact .inl rfl
    · rw [← hfits, ← fit?_eq_none_iff_range, floorMod?_eq hb hr]
      split_ifs with h
      · exact iff_of_true rfl h
      · exact iff_of_false nofun h

/-- Minus seven divided by two: the quotient is rounded down to minus four, and one is left. -/
theorem floor_division_minus_seven :
    (2 : Int64) ≠ 0 ∧ floorDiv? (-7) 2 = fit? (floorQuotient (-7) 2) ∧
      floorDiv? (-7) 2 = some (-4) ∧
      ∃ r : Int64, r.toInt = floorRemainder (-7) 2 ∧ floorMod? (-7) 2 = some r := by
  have hb : (2 : Int64) ≠ 0 := by decide
  obtain ⟨hquotient, -, r, hr, -, hmod, -⟩ := (floor_division (-7) 2).2 hb
  have hsome : floorMod? (-7) 2 ≠ none := by decide
  exact ⟨hb, hquotient, by decide, r, hr, hmod.resolve_right hsome⟩

/-- The least integer divided by three leaves one, which is not found: the multiple of three below
the least integer does not fit. -/
theorem floorMod?_least_by_three :
    floorMod? Int64.minValue 3 = none ∧ (1 : Int64).toInt = floorRemainder Int64.minValue 3 := by
  have hq : floorQuotient Int64.minValue 3 = -3074457345618258603 :=
    floor_eq_of_remainder (r := 1) (by decide) (.inl (by decide))
  exact ⟨by decide, by rw [floorRemainder, hq]; decide⟩

end Assessment.Numeric
