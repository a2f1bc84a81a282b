import Mathlib

/-!
# Equality of doubles

Doubles are compared in unpacked form: two zeros are equal whatever their signs, NaN equals nothing,
and all else is equal when sign, digits and exponent are. So equality is symmetric and transitive,
and reflexive on everything but NaN.

The equality of doubles decides the equality of values, and with it what is a match, a member or a
copy.

* `unpacked_beq_iff`: equality as that of what is left when zeros lose their signs.
* `float_beq_self_iff`, `float_beq_comm`, `float_beq_trans`: the laws for doubles.
-/

namespace Assessment.Numeric

open Float.Model (UnpackedFloat)
open Float.Model.UnpackedFloat

/-- An unpacked double, a zero without its sign. -/
def withoutZeroSign : UnpackedFloat → UnpackedFloat
  | .zero _ => .zero .positive
  | a => a

theorem compare_sign_eq_iff (s t : Sign) : compare s t = .eq ↔ s = t := by
  cases s <;> cases t <;> simp [compare]

/-- Unpacked doubles are equal when the first is not NaN and they differ at most in the sign of a
zero. -/
theorem unpacked_beq_iff (a b : UnpackedFloat) :
    a.beq b = true ↔ a.isNaN = false ∧ withoutZeroSign a = withoutZeroSign b := by
  rw [UnpackedFloat.beq, beq_iff_eq]
  -- The comparison looks at the kinds first and at the signs next, and so do the cases.
  cases a with
  | notANumber => simp [UnpackedFloat.compare, isNaN]
  | infinity s =>
    cases b with
    | infinity t => simp [UnpackedFloat.compare, isNaN, withoutZeroSign, compare_sign_eq_iff]
    | _ => cases s <;> simp [UnpackedFloat.compare, isNaN, withoutZeroSign]
  | zero s =>
    cases b with
    | infinity t => cases t <;> simp [UnpackedFloat.compare, isNaN, withoutZeroSign]
    | finite t n f hn => cases t <;> simp [UnpackedFloat.compare, isNaN, withoutZeroSign]
    | _ => simp [UnpackedFloat.compare, isNaN, withoutZeroSign]
  | finite s m e hm =>
    cases b with
    | infinity t => cases t <;> simp [UnpackedFloat.compare, isNaN, withoutZeroSign]
    | finite t n f hn =>
      cases s <;> cases t <;> simp [UnpackedFloat.compare, isNaN, withoutZeroSign, and_comm]
    | _ => cases s <;> simp [UnpackedFloat.compare, isNaN, withoutZeroSign]

theorem isNaN_withoutZeroSign (a : UnpackedFloat) : (withoutZeroSign a).isNaN = a.isNaN := by
  cases a <;> rfl

theorem unpacked_beq_comm (a b : UnpackedFloat) : a.beq b = b.beq a := by
  rw [Bool.eq_iff_iff, unpacked_beq_iff, unpacked_beq_iff, ← isNaN_withoutZeroSign a,
    ← isNaN_withoutZeroSign b]
  constructor <;>
    · rintro ⟨h, e⟩
      exact ⟨e ▸ h, e.symm⟩

theorem unpacked_beq_trans {a b c : UnpackedFloat} (hab : a.beq b = true) (hbc : b.beq c = true) :
    a.beq c = true := by
  rw [unpacked_beq_iff] at *
  exact ⟨hab.1, hab.2.trans hbc.2⟩

/-! ## Doubles -/

variable {x y z : Float}

/-- A double equals itself unless it is NaN. -/
theorem float_beq_self_iff : (x == x) = true ↔ x.isNaN = false :=
  (unpacked_beq_iff _ _).trans (and_iff_left rfl)

theorem float_beq_comm (x y : Float) : (x == y) = (y == x) := unpacked_beq_comm _ _

theorem float_beq_trans (hxy : (x == y) = true) (hyz : (y == z) = true) : (x == z) = true :=
  unpacked_beq_trans (b := y.toModel.unpack) hxy hyz

end Assessment.Numeric
