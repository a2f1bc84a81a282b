import Assessment.Numeric.Bounded
import Mathlib

/-!
# Integers as doubles are finite

An integer of 64 bits, signed or not, has a nearest double, and that double is finite. The rounding
of a number keeps its digits and its exponent near to what they were, far below the exponent at
which a double becomes infinite.

The operator integerToFloat, the widening of `conform` and the mixed comparisons all take the double
of an integer; none of them has to look whether it is finite.

* `Spans`: an unpacked double is zero or finite, with so many digits and an exponent so large.
* `isFinite_ofInt`: the double of an integer of up to 64 digits is finite.
-/

namespace Assessment.Numeric

open Float.Model Float.Model.UnpackedFloat

/-- A number that is zero, or of at most `k` binary digits times a power of two of at most `e`. -/
inductive Spans (k : Nat) (e : Int) : UnpackedFloat → Prop
  | zero (s : Sign) : Spans k e (.zero s)
  | finite {s : Sign} {m : Nat} {x : Int} {hm : 0 < m} :
      m < 2 ^ k → x ≤ e → Spans k e (.finite s m x hm)

variable {k l m : Nat} {e f : Int} {s : Sign} {a b : UnpackedFloat}

theorem Spans.isFinite (h : Spans k e a) : a.isFinite = true := by
  cases h <;> rfl

theorem Spans.mono (h : Spans k e a) (hef : e ≤ f) : Spans k f a := by
  cases h with
  | zero s => exact .zero s
  | finite hm hx => exact .finite hm (hx.trans hef)

theorem Spans.neg (h : Spans k e a) : Spans k e a.neg := by
  cases h with
  | zero s => exact .zero _
  | finite hm hx => exact .finite hm hx

/-! ## Rounding -/

theorem mantissa_shiftRight_le (em : ExtendedMantissa) (n : Nat) :
    (em >>> n).mantissa ≤ em.mantissa := by
  induction n with
  | zero => exact Nat.le_refl _
  | succ n ih => exact Nat.le_trans (Nat.div_le_self _ _) ih

theorem log2_le_of_lt (h : m < 2 ^ (k + 1)) : m.log2 ≤ k := by
  rcases eq_or_ne m 0 with rfl | h0
  · rw [Nat.log2_zero]
    exact k.zero_le
  · exact Nat.lt_succ_iff.1 ((Nat.log2_lt h0).2 h)

theorem roundedMantissa_le (em : ExtendedMantissa) : em.roundedMantissa ≤ em.mantissa + 1 := by
  obtain ⟨m, roundBit, stickyBit⟩ := em
  cases roundBit <;> cases stickyBit <;>
    simp only [ExtendedMantissa.roundedMantissa, ExtendedMantissa.accuracy,
      Accuracy.roundToNearestEven] <;> omega

theorem mantissa_ofMantissaAndAccuracy (m : Nat) (c : Accuracy) :
    (ExtendedMantissa.ofMantissaAndAccuracy m c).mantissa = m := by
  rcases c with _ | o
  · rfl
  · cases o <;> rfl

/-- A shift to the exponent of a double drops digits, and adds at most as many to the exponent. -/
theorem shiftToTargetExponent_le (hm : m < 2 ^ k) {x : Int} (hx : x ≤ e) (he : -1074 ≤ e)
    (c : Accuracy) :
    (shiftToTargetExponent .binary64 m x c).1.mantissa ≤ m ∧
      (shiftToTargetExponent .binary64 m x c).2 ≤ e + k := by
  constructor
  · refine (mantissa_shiftRight_le _ _).trans_eq ?_
    exact mantissa_ofMantissaAndAccuracy m c
  · have hlog : m.log2 ≤ k := log2_le_of_lt (hm.trans (Nat.pow_lt_pow_succ one_lt_two))
    simp only [shiftToTargetExponent, shiftToExponent, Format.targetExponent, totalExponent,
      Format.mantissaBits, Format.minExponent]
    norm_num
    omega

theorem spans_roundWithAccuracy (hm : m < 2 ^ k) {x : Int} (hx : x ≤ e) (he : -1074 ≤ e)
    (c : Accuracy) :
    Spans (k + 1) (e + 2 * k + 1) (roundWithAccuracy .binary64 s m x c) := by
  obtain ⟨hm₁, he₁⟩ := shiftToTargetExponent_le hm hx he c
  rw [roundWithAccuracy]
  generalize shiftToTargetExponent .binary64 m x c = first at *
  -- The rounding may carry into one more digit, and the second shift drops it again.
  have hr : first.1.roundedMantissa < 2 ^ (k + 1) := by
    have := roundedMantissa_le first.1
    rw [Nat.pow_succ]
    omega
  obtain ⟨hm₂, he₂⟩ := shiftToTargetExponent_le hr he₁ (by omega) .exact
  dsimp only
  split
  · exact .zero s
  · exact .finite (by omega) (by push_cast at he₂; omega)

/-! ## Doubles -/

/-- A double whose exponent bits are not all set is zero or finite. -/
theorem spans_unpack {v : BitVec 64} (hv : (@unpackExponent .binary64 v).toNat < 2047)
    (he : ((@unpackExponent .binary64 v).toNat : Int) ≤ e + 1075) (h : -1074 ≤ e) :
    Spans 53 e (UnpackedFloat.unpack .binary64 v) := by
  have hne : @unpackExponent .binary64 v ≠ -1#_ := by
    intro heq
    rw [heq] at hv
    exact absurd hv (by decide)
  rw [UnpackedFloat.unpack, if_neg hne]
  split
  · split
    · exact .zero _
    · rename_i h0 _
      refine .finite ((BitVec.isLt _).trans (by decide)) ?_
      simp only [h0, Format.exponentBias]
      norm_num
      omega
  · refine .finite (BitVec.isLt _) ?_
    simp only [Format.exponentBias]
    norm_num
    omega

/-- A number with an exponent in the range of a double becomes a finite double. -/
theorem spans_unpack_pack (ha : Spans k e a) (h : -1074 ≤ e) (h' : e ≤ 971) :
    Spans 53 e (Float.Model.pack a).unpack := by
  rw [Float.Model.unpack, Float.Model.pack]
  cases ha with
  | zero s =>
    refine spans_unpack ?_ ?_ h <;> simp [UnpackedFloat.pack, packedZero]
    omega
  | @finite s m x hm _ hx =>
    have hbias : Format.binary64.exponentBias = 1023 := rfl
    simp only [UnpackedFloat.pack, hbias]
    obtain ⟨n, hn⟩ : ∃ n, (x + (1023 : Nat) + (52 : Nat)).toNat = n := ⟨_, rfl⟩
    rw [hn, if_neg (by norm_num; omega)]
    split
    · have hmod : n % 2 ^ 11 = n := Nat.mod_eq_of_lt (by omega)
      refine spans_unpack ?_ ?_ h <;>
        rw [unpackExponent_packComponents, BitVec.toNat_ofNat, hmod] <;> omega
    · refine spans_unpack ?_ ?_ h <;> rw [unpackExponent_packComponents]
      · decide
      · show (0 : Int) ≤ e + 1075
        omega

theorem Spans.mul (ha : Spans k e a) (hb : Spans l f b) (h : -1074 ≤ e + f) :
    Spans (k + l + 1) (e + f + 2 * (k + l : Nat) + 1) (UnpackedFloat.mul .binary64 a b) := by
  cases ha with
  | zero s =>
    cases hb with
    | zero s => exact .zero _
    | finite _ _ => exact .zero _
  | finite hm hx =>
    cases hb with
    | zero s => exact .zero _
    | finite hm' hx' =>
      refine spans_roundWithAccuracy ?_ (Int.add_le_add hx hx') h .exact
      rw [Nat.pow_add]
      exact Nat.mul_lt_mul'' hm hm'

/-! ## Integers -/

theorem spans_round (hm : m < 2 ^ k) :
    Spans (k + 53) (2 * k + 105) (UnpackedFloat.round .binary64 s m 0) := by
  have hs : (0 - Format.binary64.targetExponent (totalExponent m 0)).toNat ≤ 52 := by
    simp only [Format.targetExponent, totalExponent, Format.mantissaBits, Format.minExponent]
    norm_num
    omega
  rw [UnpackedFloat.round, decreaseExponent]
  generalize (0 - Format.binary64.targetExponent (totalExponent m 0)).toNat = n at *
  have hshift : m <<< n < 2 ^ (k + 52) := by
    rw [Nat.shiftLeft_eq, Nat.pow_add]
    exact Nat.mul_lt_mul_of_lt_of_le hm (Nat.pow_le_pow_right (by decide) hs) (by positivity)
  exact (spans_roundWithAccuracy hshift (e := 0) (by omega) (by decide) .exact).mono
    (by push_cast; omega)

theorem spans_ofUInt64 (n : UInt64) : Spans 53 233 (Float.Model.ofUInt64 n).unpack := by
  refine spans_unpack_pack (k := 117) ?_ (by decide) (by decide)
  rw [UnpackedFloat.ofUInt64, UnpackedFloat.ofNat, UnpackedFloat.ofInt,
    UnpackedFloat.normalize]
  split
  · rename_i hlt
    exact absurd (Int.compare_eq_lt.1 hlt) (by omega)
  · exact .zero _
  · exact spans_round n.toNat_lt

theorem spans_ofScientific {n : Nat} (h : n ≤ 2 ^ 64) :
    Spans 120 394 (UnpackedFloat.ofScientific .binary64 n 0) := by
  rw [UnpackedFloat.ofScientific]
  split
  · exact .zero _
  · rw [if_neg (by decide), if_neg (by norm_num), if_pos (Int.le_refl 0)]
    refine Spans.mono (Spans.mul (k := 118) (l := 1) (e := -53) (f := 0) (.finite ?_ ?_)
      (.finite ?_ ?_) ?_) ?_
    · show n <<< 53 < 2 ^ 118
      rw [Nat.shiftLeft_eq]
      omega
    all_goals decide

/-- The double of a natural number, which is a product with one, or a number in decimal form that is
rounded. -/
theorem spans_ofNat {n : Nat} (h : n ≤ 2 ^ 64) : Spans 53 394 (Float.ofNat n).toModel.unpack := by
  show Spans 53 394 (Float.ofScientific n false 0).toModel.unpack
  rw [Float.ofScientific]
  split
  · have hone : Spans 53 (-52) (Float.ofBits 0x3FF0000000000000).toModel.unpack :=
      .finite (by decide) (by decide)
    have hmul := (spans_ofUInt64 n.toUInt64).mul hone (by decide)
    exact spans_unpack_pack hmul (by decide) (by decide)
  · exact spans_unpack_pack (spans_ofScientific h) (by decide) (by decide)

/-- **The double of an integer of 64 bits is finite**, whether the integer has a sign or not. -/
theorem isFinite_ofInt {n : Int} (h : n.natAbs ≤ 2 ^ 64) : (Float.ofInt n).isFinite = true := by
  cases n with
  | ofNat n => exact (spans_ofNat h).isFinite
  | negSucc n => exact (spans_unpack_pack (spans_ofNat h).neg (by decide) (by decide)).isFinite

theorem isFinite_toFloat (i : Int64) : (toFloat i).isFinite = true := by
  have h₁ := i.le_toInt
  have h₂ := i.toInt_lt
  exact isFinite_ofInt (by omega)

/-- A finite double is no NaN. -/
theorem float_isNaN_of_isFinite {x : Float} (h : x.isFinite = true) : x.isNaN = false := by
  show x.toModel.unpack.isNaN = false
  have h : x.toModel.unpack.isFinite = true := h
  cases hx : x.toModel.unpack with
  | notANumber =>
    rw [hx] at h
    cases h
  | _ => rfl

end Assessment.Numeric
