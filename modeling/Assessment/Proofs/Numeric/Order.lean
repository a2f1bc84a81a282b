import Mathlib

/-!
# The order of doubles

Doubles are compared in unpacked form, by kind first, then by exponent and then by digits. So a
double has a rank, and a comparison of doubles that are no NaN is one of their ranks, which are in a
linear order; a NaN is neither below nor above anything.

The lookup tables, the mappings and the shapes compare doubles as well; the order is stated once,
here, for all of them.

* `compare_eq_compare_rank`: the comparison of unpacked doubles as that of their ranks.
* `float_lt_iff`, `float_le_iff`, `float_beq_iff`: the order and the equality of doubles.
* `float_le_trans`, `float_lt_of_le_of_lt`, `float_not_lt`: the laws for doubles.
-/

namespace Assessment.Numeric

open Float.Model (UnpackedFloat)
open Float.Model.UnpackedFloat

/-! ## Unpacked doubles -/

/-- A kind, an exponent and digits, in the order in which they are compared. -/
abbrev Rank := ℤ ×ₗ ℤ ×ₗ ℤ

/-- The rank of an unpacked double: that of its opposite is the other way round. -/
def unpackedRank : UnpackedFloat → Rank
  | .infinity .negative => toLex (-2, toLex (0, 0))
  | .finite .negative m e _ => toLex (-1, toLex (-e, -m))
  | .zero _ | .notANumber => toLex (0, toLex (0, 0))
  | .finite .positive m e _ => toLex (1, toLex (e, m))
  | .infinity .positive => toLex (2, toLex (0, 0))

theorem compare_natCast (m n : ℕ) : compare (m : ℤ) (n : ℤ) = compare m n := by
  simp only [compare, compareOfLessAndEq, Int.ofNat_lt, Int.natCast_inj]

theorem compare_neg (m n : ℤ) : compare (-m) (-n) = (compare m n).swap := by
  rw [Int.compare_swap]
  simp only [compare, compareOfLessAndEq, neg_lt_neg_iff, neg_inj, eq_comm]

/-- Within one kind, ranks are compared by exponent and then by digits. -/
theorem compare_toLex (kind k l m n : ℤ) :
    compare (toLex (kind, toLex (k, m))) (toLex (kind, toLex (l, n))) =
      (compare k l).then (compare m n) := by
  simp only [Prod.Lex.compare_def, compareLex, compareOn, ofLex_toLex, Std.ReflCmp.compare_self,
    Ordering.eq_then]

/-- Unpacked doubles that are no NaN are compared as their ranks are. -/
theorem compare_eq_compare_rank {a b : UnpackedFloat} (ha : a.isNaN = false)
    (hb : b.isNaN = false) :
    UnpackedFloat.compare a b = some (compare (unpackedRank a) (unpackedRank b)) := by
  cases a with
  | notANumber => cases ha
  | infinity s | zero s =>
    cases b with
    | notANumber => cases hb
    | infinity t | zero t | finite t => cases s <;> cases t <;> rfl
  | finite s m e =>
    cases b with
    | notANumber => cases hb
    | infinity t | zero t => cases s <;> cases t <;> rfl
    | finite t n f =>
      -- Only two numbers of one sign need their exponents and digits.
      cases s <;> cases t
      case negative.negative =>
        rw [unpackedRank, unpackedRank, compare_toLex, compare_neg, compare_neg, compare_natCast,
          ← Ordering.swap_then]
        rfl
      case positive.positive =>
        rw [unpackedRank, unpackedRank, compare_toLex, compare_natCast]
        rfl
      all_goals rfl

theorem compare_eq_none_iff {a b : UnpackedFloat} :
    UnpackedFloat.compare a b = none ↔ ¬(a.isNaN = false ∧ b.isNaN = false) := by
  constructor
  · rintro h ⟨ha, hb⟩
    rw [compare_eq_compare_rank ha hb] at h
    cases h
  · intro h
    cases a with
    | notANumber => rfl
    | infinity s | zero s | finite s =>
      cases b with
      | notANumber => cases s <;> rfl
      | _ => exact absurd ⟨rfl, rfl⟩ h

/-- What holds of the comparison of two doubles holds of their ranks, and they are no NaN. -/
theorem any_compare_iff {a b : UnpackedFloat} (p : Ordering → Bool) :
    (UnpackedFloat.compare a b).any p = true ↔
      a.isNaN = false ∧ b.isNaN = false ∧ p (compare (unpackedRank a) (unpackedRank b)) = true := by
  rw [← and_assoc]
  by_cases h : a.isNaN = false ∧ b.isNaN = false
  · rw [compare_eq_compare_rank h.1 h.2, and_iff_right h]
    rfl
  · rw [compare_eq_none_iff.2 h]
    exact iff_of_false Bool.false_ne_true fun h' => h h'.1

/-! ## Doubles -/

variable {x y z : Float}

/-- The rank of a double. -/
def rank (x : Float) : Rank := unpackedRank x.toModel.unpack

theorem float_lt_iff : x < y ↔ x.isNaN = false ∧ y.isNaN = false ∧ rank x < rank y := by
  have hany : x < y ↔
      (UnpackedFloat.compare x.toModel.unpack y.toModel.unpack).any (· == .lt) = true := by
    show decide (x.toModel < y.toModel) = true ↔ _
    rw [decide_eq_true_iff]
    show (UnpackedFloat.compare _ _ == some .lt) = true ↔ _
    cases UnpackedFloat.compare x.toModel.unpack y.toModel.unpack <;> rfl
  rw [hany, any_compare_iff, beq_iff_eq, compare_lt_iff_lt]
  rfl

theorem float_le_iff : x ≤ y ↔ x.isNaN = false ∧ y.isNaN = false ∧ rank x ≤ rank y := by
  have hany : x ≤ y ↔
      (UnpackedFloat.compare x.toModel.unpack y.toModel.unpack).any (·.isLE) = true := by
    show decide (x.toModel ≤ y.toModel) = true ↔ _
    rw [decide_eq_true_iff]
    rfl
  rw [hany, any_compare_iff, Ordering.isLE_iff_ne_gt, compare_gt_iff_gt, not_lt]
  rfl

theorem float_beq_iff :
    (x == y) = true ↔ x.isNaN = false ∧ y.isNaN = false ∧ rank x = rank y := by
  have hany : (x == y) = true ↔
      (UnpackedFloat.compare x.toModel.unpack y.toModel.unpack).any (· == .eq) = true := by
    show (UnpackedFloat.compare _ _ == some .eq) = true ↔ _
    cases UnpackedFloat.compare x.toModel.unpack y.toModel.unpack <;> rfl
  rw [hany, any_compare_iff, beq_iff_eq, compare_eq_iff_eq]
  rfl

theorem float_le_refl (hx : x.isNaN = false) : x ≤ x := float_le_iff.2 ⟨hx, hx, le_rfl⟩

theorem float_le_of_lt (h : x < y) : x ≤ y := by
  obtain ⟨hx, hy, hlt⟩ := float_lt_iff.1 h
  exact float_le_iff.2 ⟨hx, hy, hlt.le⟩

theorem float_le_trans (hxy : x ≤ y) (hyz : y ≤ z) : x ≤ z := by
  obtain ⟨hx, -, hxy⟩ := float_le_iff.1 hxy
  obtain ⟨-, hz, hyz⟩ := float_le_iff.1 hyz
  exact float_le_iff.2 ⟨hx, hz, hxy.trans hyz⟩

theorem float_lt_of_le_of_lt (hxy : x ≤ y) (hyz : y < z) : x < z := by
  obtain ⟨hx, -, hxy⟩ := float_le_iff.1 hxy
  obtain ⟨-, hz, hyz⟩ := float_lt_iff.1 hyz
  exact float_lt_iff.2 ⟨hx, hz, hxy.trans_lt hyz⟩

theorem float_lt_of_lt_of_le (hxy : x < y) (hyz : y ≤ z) : x < z := by
  obtain ⟨hx, -, hxy⟩ := float_lt_iff.1 hxy
  obtain ⟨-, hz, hyz⟩ := float_le_iff.1 hyz
  exact float_lt_iff.2 ⟨hx, hz, hxy.trans_le hyz⟩

theorem float_not_lt (hx : x.isNaN = false) (hy : y.isNaN = false) : ¬x < y ↔ y ≤ x := by
  rw [float_lt_iff, float_le_iff, and_iff_right hx, and_iff_right hy, and_iff_right hy,
    and_iff_right hx, not_lt]

theorem float_lt_irrefl (x : Float) : ¬x < x := fun h => lt_irrefl _ (float_lt_iff.1 h).2.2

/-- One of two doubles in the order is below the other, or they are equal. -/
theorem float_lt_of_le_of_not_beq (h : x ≤ y) (hne : (x == y) = false) : x < y := by
  obtain ⟨hx, hy, hle⟩ := float_le_iff.1 h
  refine float_lt_iff.2 ⟨hx, hy, lt_of_le_of_ne hle fun heq => ?_⟩
  rw [float_beq_iff.2 ⟨hx, hy, heq⟩] at hne
  cases hne

end Assessment.Numeric
