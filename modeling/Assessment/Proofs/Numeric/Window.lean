import Assessment.Numeric.Tolerance
import Mathlib.Algebra.Order.Field.Rat
import Mathlib.Algebra.Order.Field.Basic
import Mathlib.Tactic.Linarith

/-!
# Tolerance windows over exact numbers

A window with rational ends in place of doubles. The relative window is a product with its centre,
so its two ends change places where the centre is negative and meet where it is zero; an end moves
past zero with a tolerance above a hundred percent. What a window holds depends on the lesser and
the greater of its ends alone, and these two part as the tolerances grow.

The code is `Tolerance::accepts`. The definition is the one that runs at doubles, taken at the
rationals; there the laws of windows hold without the roundings of the ends.

* `accepts_iff`: the window as the numbers between its lesser and its greater end.
* `Widens.ends_cases`: the ends of two windows around one centre, one within the other.
* `accepts_window`: a wider window holds what the narrower one holds, a closed window holds its
  centre, and without tolerance nothing else.
-/

namespace Assessment.Numeric.Tolerance

variable {t u : Tolerance ℚ} {x y : ℚ}

/-! ## Lesser and greater end -/

/-- The lesser end of the window around `x`. -/
def least (t : Tolerance ℚ) (x : ℚ) : ℚ := min (t.ends x).1 (t.ends x).2

/-- The greater end of the window around `x`. -/
def greatest (t : Tolerance ℚ) (x : ℚ) : ℚ := max (t.ends x).1 (t.ends x).2

theorem between_iff {includeLower includeUpper : Bool} {low high : ℚ} :
    between includeLower includeUpper low high y = true ↔
      (low < y ∨ includeLower = true ∧ y = low) ∧ (y < high ∨ includeUpper = true ∧ y = high) := by
  rw [between, Bool.and_eq_true]
  refine and_congr ?_ ?_
  · cases includeLower
    · simp
    · rw [if_pos rfl, decide_eq_true_iff, le_iff_lt_or_eq, eq_comm, and_iff_right rfl]
  · cases includeUpper
    · simp
    · rw [if_pos rfl, decide_eq_true_iff, le_iff_lt_or_eq, and_iff_right rfl]

/-- A window holds the numbers between its ends, the lesser and the greater end as the two flags
say. -/
theorem accepts_iff (hmode : t.mode ≠ .exact) :
    t.accepts x y = true ↔
      (t.least x < y ∨ t.includeLower = true ∧ y = t.least x) ∧
        (y < t.greatest x ∨ t.includeUpper = true ∧ y = t.greatest x) := by
  have hordered : t.accepts x y = between t.includeLower t.includeUpper
      (if (t.ends x).1 ≤ (t.ends x).2 then ((t.ends x).1, (t.ends x).2)
        else ((t.ends x).2, (t.ends x).1)).1
      (if (t.ends x).1 ≤ (t.ends x).2 then ((t.ends x).1, (t.ends x).2)
        else ((t.ends x).2, (t.ends x).1)).2 y := by
    rw [accepts]
    split
    · exact absurd ‹_› hmode
    · rfl
  rw [hordered, between_iff, least, greatest]
  split
  · rw [min_eq_left ‹_›, max_eq_right ‹_›]
  · have hle : (t.ends x).2 ≤ (t.ends x).1 := le_of_not_ge ‹_›
    rw [min_eq_right hle, max_eq_left hle]

theorem exact_accepts_iff : Tolerance.exact.accepts x y = true ↔ y = x := by
  rw [exact, accepts, beq_iff_eq, eq_comm]

/-! ## Wider windows -/

/-- A window with the mode and the flags of another, and with greater tolerances than its, which
are not negative. -/
structure Widens (t u : Tolerance ℚ) : Prop where
  mode : u.mode = t.mode
  includeLower : u.includeLower = t.includeLower
  includeUpper : u.includeUpper = t.includeUpper
  lower_nonneg : 0 ≤ t.lower
  upper_nonneg : 0 ≤ t.upper
  lower_le : t.lower ≤ u.lower
  upper_le : t.upper ≤ u.upper

namespace Widens

/-- The ends of both windows lie on the two sides of the centre, those of the wider one further
out. They have changed places when the window is relative and its centre negative. -/
theorem ends_cases (h : Widens t u) (x : ℚ) :
    ((u.ends x).1 ≤ (t.ends x).1 ∧ (t.ends x).1 ≤ x ∧
        x ≤ (t.ends x).2 ∧ (t.ends x).2 ≤ (u.ends x).2) ∨
      ((u.ends x).2 ≤ (t.ends x).2 ∧ (t.ends x).2 ≤ x ∧
        x ≤ (t.ends x).1 ∧ (t.ends x).1 ≤ (u.ends x).1) := by
  obtain ⟨hmode, -, -, hl0, hu0, hl, hu⟩ := h
  rw [ends, ends, hmode]
  cases t.mode with
  | exact => exact .inl ⟨le_rfl, le_rfl, le_rfl, le_rfl⟩
  | absolute =>
    refine .inl ⟨?_, ?_, ?_, ?_⟩ <;> dsimp only <;> linarith
  | relative =>
    have hdown : 1 - u.lower / 100 ≤ 1 - t.lower / 100 := by linarith
    have hbelow : 1 - t.lower / 100 ≤ 1 := by linarith
    have habove : 1 ≤ 1 + t.upper / 100 := by linarith
    have hup : 1 + t.upper / 100 ≤ 1 + u.upper / 100 := by linarith
    dsimp only
    rcases le_total 0 x with hx | hx
    · refine .inl ⟨mul_le_mul_of_nonneg_left hdown hx, ?_, ?_, mul_le_mul_of_nonneg_left hup hx⟩
      · exact mul_le_of_le_one_right hx hbelow
      · exact le_mul_of_one_le_right hx habove
    · refine .inr ⟨mul_le_mul_of_nonpos_left hup hx, ?_, ?_, mul_le_mul_of_nonpos_left hdown hx⟩
      · exact (mul_le_mul_of_nonpos_left habove hx).trans_eq (mul_one x)
      · exact (mul_one x).symm.trans_le (mul_le_mul_of_nonpos_left hbelow hx)

theorem least_le_least (h : Widens t u) (x : ℚ) : u.least x ≤ t.least x := by
  rcases h.ends_cases x with ⟨h1, h2, h3, -⟩ | ⟨h1, h2, h3, -⟩
  · exact (min_le_left _ _).trans (h1.trans_eq (min_eq_left (h2.trans h3)).symm)
  · exact (min_le_right _ _).trans (h1.trans_eq (min_eq_right (h2.trans h3)).symm)

theorem greatest_le_greatest (h : Widens t u) (x : ℚ) : t.greatest x ≤ u.greatest x := by
  rcases h.ends_cases x with ⟨-, h2, h3, h4⟩ | ⟨-, h2, h3, h4⟩
  · exact (max_eq_right (h2.trans h3)).trans_le (h4.trans (le_max_right _ _))
  · exact (max_eq_left (h2.trans h3)).trans_le (h4.trans (le_max_left _ _))

theorem least_le_center (h : Widens t u) (x : ℚ) : t.least x ≤ x := by
  rcases h.ends_cases x with ⟨-, h2, -, -⟩ | ⟨-, h2, -, -⟩
  · exact (min_le_left _ _).trans h2
  · exact (min_le_right _ _).trans h2

theorem center_le_greatest (h : Widens t u) (x : ℚ) : x ≤ t.greatest x := by
  rcases h.ends_cases x with ⟨-, -, h3, -⟩ | ⟨-, -, h3, -⟩
  · exact h3.trans (le_max_right _ _)
  · exact h3.trans (le_max_left _ _)

/-- A wider window holds what the narrower one holds. -/
theorem accepts (h : Widens t u) (hmode : t.mode ≠ .exact) (hy : t.accepts x y = true) :
    u.accepts x y = true := by
  obtain ⟨hlow, hhigh⟩ := (accepts_iff hmode).1 hy
  refine (accepts_iff (h.mode.trans_ne hmode)).2 ⟨?_, ?_⟩
  · rw [h.includeLower]
    rcases hlow with hlow | ⟨hflag, rfl⟩
    · exact .inl ((h.least_le_least x).trans_lt hlow)
    · exact (h.least_le_least x).lt_or_eq.imp_right fun heq => ⟨hflag, heq.symm⟩
  · rw [h.includeUpper]
    rcases hhigh with hhigh | ⟨hflag, rfl⟩
    · exact .inl (hhigh.trans_le (h.greatest_le_greatest x))
    · exact (h.greatest_le_greatest x).lt_or_eq.imp_right fun heq => ⟨hflag, heq⟩

/-- A window with both its ends holds its centre. -/
theorem accepts_center (h : Widens t u) (hmode : t.mode ≠ .exact) (hlow : t.includeLower = true)
    (hhigh : t.includeUpper = true) : t.accepts x x = true := by
  refine (accepts_iff hmode).2 ⟨?_, ?_⟩
  · exact (h.least_le_center x).lt_or_eq.imp_right fun heq => ⟨hlow, heq.symm⟩
  · exact (h.center_le_greatest x).lt_or_eq.imp_right fun heq => ⟨hhigh, heq⟩

end Widens

/-! ## No tolerance -/

/-- Without tolerance both ends are the centre. -/
theorem ends_of_zero (hl : t.lower = 0) (hu : t.upper = 0) : t.ends x = (x, x) := by
  rw [ends, hl, hu]
  cases t.mode <;> simp

theorem accepts_of_zero (hmode : t.mode ≠ .exact) (hlow : t.includeLower = true)
    (hhigh : t.includeUpper = true) (hl : t.lower = 0) (hu : t.upper = 0) :
    t.accepts x y = true ↔ y = x := by
  rw [accepts_iff hmode, least, greatest, ends_of_zero hl hu, min_self, max_self]
  constructor
  · rintro ⟨h | ⟨-, h⟩, h' | ⟨-, h'⟩⟩
    · exact absurd h' h.not_gt
    · exact h'
    · exact h
    · exact h
  · rintro rfl
    exact ⟨.inr ⟨hlow, rfl⟩, .inr ⟨hhigh, rfl⟩⟩

/-! ## The laws of windows -/

/-- **Tolerance windows grow around their centre.** In absolute and in relative mode, with exact
numbers and tolerances that are not negative, around a centre of any sign: a window with greater
tolerances and the same flags holds all that the window holds. With both ends the window holds its
centre; with both ends and without tolerance it holds nothing else, so that it agrees with the exact
mode. -/
theorem accepts_window {mode : ToleranceMode} (hmode : mode ≠ .exact)
    {lower upper lower' upper' : ℚ} (hlower : 0 ≤ lower) (hupper : 0 ≤ upper)
    (hl : lower ≤ lower') (hu : upper ≤ upper') (x y : ℚ) :
    (∀ low high : Bool, (Tolerance.mk mode lower upper low high).accepts x y = true →
        (Tolerance.mk mode lower' upper' low high).accepts x y = true) ∧
      (Tolerance.mk mode lower upper true true).accepts x x = true ∧
      ((Tolerance.mk mode 0 0 true true).accepts x y = true ↔ y = x) ∧
      (Tolerance.mk mode 0 0 true true).accepts x y = Tolerance.exact.accepts x y := by
  have hwidens (low high : Bool) :
      Widens ⟨mode, lower, upper, low, high⟩ ⟨mode, lower', upper', low, high⟩ :=
    ⟨rfl, rfl, rfl, hlower, hupper, hl, hu⟩
  have hzero : (Tolerance.mk mode 0 0 true true).accepts x y = true ↔ y = x :=
    accepts_of_zero hmode rfl rfl rfl rfl
  refine ⟨fun low high => (hwidens low high).accepts hmode,
    (hwidens true true).accepts_center hmode rfl rfl, hzero, ?_⟩
  rw [Bool.eq_iff_iff, hzero, exact_accepts_iff]

/-- Around minus one hundred, ten percent below and five above reach from minus a hundred and five
to minus ninety; with a hundred and fifty percent below, the upper end is positive. -/
theorem accepts_window_negative :
    (ToleranceMode.relative ≠ .exact ∧ (0 : ℚ) ≤ 10 ∧ (0 : ℚ) ≤ 5 ∧ (10 : ℚ) ≤ 150 ∧ (5 : ℚ) ≤ 5) ∧
      (Tolerance.mk ToleranceMode.relative (10 : ℚ) 5 true false).accepts (-100) (-105) = true ∧
      (Tolerance.mk ToleranceMode.relative (150 : ℚ) 5 true false).accepts (-100) (-105) = true ∧
      (Tolerance.mk ToleranceMode.relative (10 : ℚ) 5 true true).accepts (-100) (-100) = true := by
  have hnarrow : (Tolerance.mk ToleranceMode.relative (10 : ℚ) 5 true false).accepts (-100) (-105) =
      true := by decide +kernel
  have hmode : ToleranceMode.relative ≠ .exact := by decide
  have hlower : (0 : ℚ) ≤ 10 := by norm_num
  have hupper : (0 : ℚ) ≤ 5 := by norm_num
  have hl : (10 : ℚ) ≤ 150 := by norm_num
  have hlaws := accepts_window hmode hlower hupper hl le_rfl (-100) (-105)
  exact ⟨⟨hmode, hlower, hupper, hl, le_rfl⟩, hnarrow, hlaws.1 true false hnarrow, hlaws.2.1⟩

end Assessment.Numeric.Tolerance
