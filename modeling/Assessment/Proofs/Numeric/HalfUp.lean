import Assessment.Proofs.Numeric.Arithmetic
import Assessment.Proofs.Numeric.Division

/-!
# Rounding halves up

The nearest integer, a half going up, is the integer next below the number and a half. `round` takes
that sum as a double, and the sum is rounded before the integer below it is taken. In most places
that makes no difference: the doubles near the sum are no coarser than those near the number, or the
rounding stays below the next integer. It makes one in two places. The double next below a half is
taken to one instead of zero, and beyond 2 to the power 52, where doubles are whole, a half is
rounded to the even neighbour, so that every odd integer is taken to the next one.

The code is `round_half_up` behind the operator round, whose comment says: nearest integer, halves
toward positive infinity.

* `Crosses`: the numbers that the sum takes to the next integer.
* `roundHalfUp?_eq_iff`: rounding is right for all other doubles, and one too great for these.
-/

namespace Assessment.Numeric

open Decimal

/-- The numbers to which a half is not added exactly enough: the double next below a half, and the
odd integers of 53 digits. -/
def Crosses (v : ℚ) : Prop :=
  v = 1 / 2 - 1 / 2 ^ 54 ∨ ∃ n : ℤ, v = n ∧ Odd n ∧ 2 ^ 52 < |n| ∧ |n| < 2 ^ 53

variable {b d : Binary} {q v : ℚ} {j n : ℤ}

/-! ## A number and a half -/

section Sum

variable (hb : b.Canonical) (hd : Rounded (b.value + 1 / 2) d)

theorem floor_add_half (n : ℤ) : ⌊(n : ℚ) + 1 / 2⌋ = n := by
  rw [Int.floor_eq_iff]
  constructor <;> linarith

theorem abs_add_half_mem (v : ℚ) : |v| - 1 / 2 ≤ |v + 1 / 2| ∧ |v + 1 / 2| ≤ |v| + 1 / 2 := by
  rcases abs_cases v with ⟨h, _⟩ | ⟨h, _⟩ <;>
    rcases abs_cases (v + 1 / 2) with ⟨h', _⟩ | ⟨h', _⟩ <;>
      rw [h, h'] <;> constructor <;> linarith

/-- Below 2 to the power 52 only the double next below a half is in the way. -/
theorem Crosses.eq_of_abs_lt (h : Crosses v) (hv : |v| < 2 ^ 52) : v = 1 / 2 - 1 / 2 ^ 54 := by
  refine h.resolve_right ?_
  rintro ⟨n, rfl, -, hlow, -⟩
  have hlow' : (2 ^ 52 : ℚ) < |(n : ℚ)| := by exact_mod_cast hlow
  linarith

/-- A half is at most half a unit, and half a unit goes to the even neighbour. -/
theorem nearestInt_add_half {t : ℤ} (ht : 0 ≤ t) (heven : t = 0 → Even j) :
    NearestInt ((j * 2 ^ t + 1 / 2) / 2 ^ t) j := by
  have hunit : (0 : ℚ) < 2 ^ t := by positivity
  have habs : |(j : ℚ) - (j * 2 ^ t + 1 / 2) / 2 ^ t| = 1 / 2 / 2 ^ t := by
    rw [add_div, mul_div_cancel_right₀ _ hunit.ne', sub_add_cancel_left, abs_neg,
      abs_of_pos (by positivity)]
  rw [nearestInt_iff, habs]
  rcases ht.eq_or_lt with rfl | hpos
  · exact ⟨by norm_num, fun _ => heven rfl⟩
  · have hone : (1 : ℚ) < 2 ^ t := one_lt_zpow₀ one_lt_two hpos
    have hlt : 1 / 2 / (2 : ℚ) ^ t < 1 / 2 := div_lt_self (by norm_num) hone
    exact ⟨hlt.le, fun heq => absurd heq hlt.ne⟩

include hb hd

/-- Where doubles are even a half does not count. -/
theorem value_eq_of_exponent_pos (he : 0 < b.exponent) : d.value = b.value := by
  have hunit : (2 : ℚ) ^ (1 : ℤ) ≤ 2 ^ b.exponent := zpow_le_zpow_right₀ one_le_two (by omega)
  have hleading : (2 : ℚ) ^ (53 : ℤ) ≤ 2 ^ (b.exponent + 52) :=
    zpow_le_zpow_right₀ one_le_two (by omega)
  have hupper := hb.abs_value_le
  have hlower := hb.le_abs_value (by omega)
  obtain ⟨hsum, hsum'⟩ := abs_add_half_mem b.value
  norm_num at hunit hleading
  have hne : b.value + 1 / 2 ≠ 0 := abs_pos.1 (by linarith)
  have hle : gridExponent (b.value + 1 / 2) ≤ b.exponent :=
    (gridExponent_le_iff hne).2 ⟨by linarith, hb.least_le⟩
  have hge : 0 ≤ gridExponent (b.value + 1 / 2) := by
    refine not_lt.1 fun hlt => ?_
    have hbelow := ((gridExponent_le_iff hne).1 (Int.le_sub_one_of_lt hlt)).1
    norm_num at hbelow
    linarith
  obtain ⟨j, hj⟩ := Binary.exists_value_eq_mul hle
  have hnearest : NearestInt ((b.value + 1 / 2) / 2 ^ gridExponent (b.value + 1 / 2)) j := by
    nth_rewrite 1 [hj]
    refine nearestInt_add_half hge fun h0 => ?_
    -- At the exponent zero the multiple is the number, which is even.
    obtain ⟨i, hi⟩ := Binary.exists_value_eq_mul (b := b) (t := 1) (by omega)
    rw [h0, hi, zpow_zero, mul_one, zpow_one] at hj
    exact ⟨i, by exact_mod_cast (by linarith : (j : ℚ) = i + i)⟩
  rw [hd.value_eq_of_nearestInt hnearest, ← hj]

/-- Where doubles are whole a half goes to the even neighbour. -/
theorem floor_of_exponent_zero (he : b.exponent = 0) :
    ⌊d.value⌋ = ⌊b.value + 1 / 2⌋ ∧ ¬Crosses b.value ∨
      ⌊d.value⌋ = ⌊b.value + 1 / 2⌋ + 1 ∧ Crosses b.value := by
  have hupper := hb.abs_value_le
  have hlower := hb.le_abs_value (by omega)
  obtain ⟨n, hn⟩ := Binary.exists_value_eq_mul he.ge
  rw [zpow_zero, mul_one] at hn
  rw [he, hn] at hupper hlower
  rw [hn] at hd ⊢
  norm_num at hupper hlower
  have hlow : 2 ^ 52 ≤ |n| := by exact_mod_cast hlower
  have hhigh : |n| < 2 ^ 53 := by
    have : |n| ≤ 9007199254740991 := by exact_mod_cast hupper
    omega
  have hcrosses : Crosses n ↔ Odd n ∧ 2 ^ 52 < |n| := by
    constructor
    · rintro (h | ⟨m, hm, hodd, hlow, -⟩)
      · rw [h] at hlower
        norm_num at hlower
      · obtain rfl : n = m := by exact_mod_cast hm
        exact ⟨hodd, hlow⟩
    · rintro ⟨hodd, hlow⟩
      exact .inr ⟨n, rfl, hodd, hlow, hhigh⟩
  obtain ⟨hsum, hsum'⟩ := abs_add_half_mem (n : ℚ)
  have hne : (n : ℚ) + 1 / 2 ≠ 0 := abs_pos.1 (by linarith)
  have hle : gridExponent ((n : ℚ) + 1 / 2) ≤ 0 := by
    refine (gridExponent_le_iff hne).2 ⟨?_, by norm_num⟩
    norm_num
    linarith
  rw [floor_add_half, hcrosses]
  rcases hle.lt_or_eq with hlt | heq
  · -- Then the number is two to the power 52 below zero, and the sum is a double.
    have hbelow := ((gridExponent_le_iff hne).1 (Int.le_sub_one_of_lt hlt)).1
    norm_num at hbelow
    obtain ⟨j, hj⟩ := exists_mul_zpow_eq (Int.le_sub_one_of_lt hlt) (2 * n + 1)
    rw [hd.value_eq (j := j) (by rw [← hj]; push_cast; norm_num; ring), floor_add_half]
    refine .inl ⟨rfl, fun h => ?_⟩
    have hmore : (2 ^ 52 + 1 : ℚ) ≤ |(n : ℚ)| := by exact_mod_cast h.2
    linarith
  · rcases Int.even_or_odd n with heven | hodd
    · have hnearest := nearestInt_add_half le_rfl fun _ => heven
      rw [zpow_zero, mul_one] at hnearest
      rw [hd.value_eq_of_nearestInt (j := n) (by rwa [heq, zpow_zero]), heq, zpow_zero, mul_one,
        Int.floor_intCast]
      exact .inl ⟨rfl, fun h => (Int.not_odd_iff_even.2 heven) h.1⟩
    · have habs : |((n + 1 : ℤ) : ℚ) - (n + 1 / 2)| = 1 / 2 := by
        push_cast
        norm_num
      have hnearest : NearestInt (n + 1 / 2 : ℚ) (n + 1) := by
        rw [nearestInt_iff, habs]
        exact ⟨le_rfl, fun _ => hodd.add_one⟩
      rw [hd.value_eq_of_nearestInt (j := n + 1) (by rwa [heq, zpow_zero, div_one]), heq, zpow_zero,
        mul_one, Int.floor_intCast]
      refine .inr ⟨rfl, hodd, lt_of_le_of_ne hlow fun h => ?_⟩
      obtain ⟨k, hk⟩ := hodd
      rcases (abs_eq (by norm_num)).1 h.symm with h | h <;> omega

/-- A sum below one, that of the double next below a half apart, stays below one. -/
theorem floor_of_lt_one (hlt : b.exponent < gridExponent (b.value + 1 / 2))
    (h0 : 0 < b.value + 1 / 2) (h1 : b.value + 1 / 2 < 1) :
    ⌊d.value⌋ = 0 ∧ ¬Crosses b.value ∨ ⌊d.value⌋ = 1 ∧ Crosses b.value := by
  have hsmall : |b.value| < 2 ^ 52 := by
    rw [abs_lt]
    constructor <;> linarith
  have hgrid : gridExponent (b.value + 1 / 2) ≤ -53 := by
    refine (gridExponent_le_iff h0.ne').2 ⟨?_, by norm_num⟩
    rwa [abs_of_pos h0, neg_add_cancel, zpow_zero]
  rcases le_or_gt (b.value + 1 / 2) (1 - 1 / 2 ^ 53) with hle | hgt
  · obtain ⟨j, hj⟩ := exists_mul_zpow_eq hgrid (2 ^ 53 - 1)
    have hj' : (1 - 1 / 2 ^ 53 : ℚ) = j * 2 ^ gridExponent (b.value + 1 / 2) := by
      rw [← hj]
      norm_num
    have hupper := hd.le_of_le (j := j) (hj' ▸ hle)
    have hlower := hd.ge_of_ge (j := 0) (by rw [Int.cast_zero, zero_mul]; exact h0.le)
    rw [← hj'] at hupper
    rw [Int.cast_zero, zero_mul] at hlower
    refine .inl ⟨Int.floor_eq_iff.2 ⟨by exact_mod_cast hlower, ?_⟩, fun h => ?_⟩
    · norm_num at hupper ⊢
      linarith
    · rw [h.eq_of_abs_lt hsmall] at hle
      norm_num at hle
  · -- Only one double is that close to a half.
    have hexp : -54 ≤ b.exponent := by
      refine not_lt.1 fun hlt => ?_
      have hpow : (2 : ℚ) ^ (b.exponent + 53) ≤ 2 ^ (-2 : ℤ) :=
        zpow_le_zpow_right₀ one_le_two (by omega)
      have := (le_abs_self b.value).trans_lt (hb.abs_value_lt.trans_le hpow)
      norm_num at this hgt
      linarith
    obtain ⟨i, hi⟩ := Binary.exists_value_eq_mul hexp
    norm_num at hi hgt
    have hlow : 9007199254740990 < i := by
      have : (9007199254740990 : ℚ) < i := by linarith
      exact_mod_cast this
    have hhigh : i < 9007199254740992 := by
      have : (i : ℚ) < 9007199254740992 := by linarith
      exact_mod_cast this
    obtain rfl : i = 9007199254740991 := by omega
    have hvalue : b.value = 1 / 2 - 1 / 2 ^ 54 := by
      rw [hi]
      norm_num
    have heq : gridExponent (b.value + 1 / 2) = -53 := by omega
    -- The sum is half a unit below one, which is an even number of units.
    have hnearest : NearestInt ((b.value + 1 / 2) / 2 ^ (-53 : ℤ)) (2 ^ 53) := by
      have habs : |((2 ^ 53 : ℤ) : ℚ) - (b.value + 1 / 2) / 2 ^ (-53 : ℤ)| = 1 / 2 := by
        rw [hvalue]
        norm_num
      rw [nearestInt_iff, habs]
      exact ⟨le_rfl, fun _ => ⟨2 ^ 52, by norm_num⟩⟩
    have hone := hd.value_eq_of_nearestInt (heq ▸ hnearest)
    rw [heq] at hone
    norm_num at hone
    exact .inr ⟨by rw [hone, Int.floor_one], .inl hvalue⟩

/-- A sum from one on, on a coarser grid than the number, is just past a power of two. -/
theorem floor_of_one_le (he : b.exponent < 0) (hlt : b.exponent < gridExponent (b.value + 1 / 2))
    (h1 : 1 ≤ b.value + 1 / 2) : ⌊d.value⌋ = ⌊b.value + 1 / 2⌋ := by
  have hpos : 0 < b.value + 1 / 2 := by linarith
  have hpow : (2 : ℚ) ^ (b.exponent + 53) ≤ 2 ^ (gridExponent (b.value + 1 / 2) + 52) :=
    zpow_le_zpow_right₀ one_le_two (by omega)
  have hupper := (le_abs_self _).trans_lt (hb.abs_value_lt.trans_le hpow)
  have hlower := (le_abs_of_gridExponent hpos.ne').resolve_right (by have := hb.least_le; omega)
  rw [abs_of_pos hpos] at hlower
  have hlow : -52 ≤ gridExponent (b.value + 1 / 2) := by
    refine not_lt.1 fun hgt => ?_
    have := ((gridExponent_le_iff hpos.ne').1 (Int.le_sub_one_of_lt hgt)).1
    rw [abs_of_pos hpos] at this
    norm_num at this
    linarith
  have hhigh : gridExponent (b.value + 1 / 2) ≤ 0 := by
    refine (gridExponent_le_iff hpos.ne').2 ⟨?_, by norm_num⟩
    have hsmall : (2 : ℚ) ^ (b.exponent + 53) ≤ 2 ^ (52 : ℤ) :=
      zpow_le_zpow_right₀ one_le_two (by omega)
    have := (le_abs_self _).trans_lt (hb.abs_value_lt.trans_le hsmall)
    rw [abs_of_pos hpos]
    norm_num at this ⊢
    linarith
  obtain ⟨k, hk⟩ := Int.eq_ofNat_of_zero_le (by omega : 0 ≤ gridExponent (b.value + 1 / 2) + 52)
  have hunit : (2 : ℚ) ^ gridExponent (b.value + 1 / 2) ≤ 1 := by
    simpa using zpow_le_zpow_right₀ (one_le_two (α := ℚ)) hhigh
  have hpower : ((2 ^ 52 : ℤ) : ℚ) * 2 ^ gridExponent (b.value + 1 / 2) = 2 ^ k := by
    rw [← zpow_natCast, ← hk, zpow_add₀ two_ne_zero, mul_comm]
    norm_num
  have hge := hd.ge_of_ge (j := 2 ^ 52) (by rw [hpower]; rwa [hk, zpow_natCast] at hlower)
  have hclose := (abs_le.1 hd.abs_sub_le).2
  rw [hpower] at hge
  rw [hk, zpow_natCast] at hupper hlower
  have hfloor {w : ℚ} (hw : 2 ^ k ≤ w) (hw' : w < 2 ^ k + 1) : ⌊w⌋ = 2 ^ k :=
    Int.floor_eq_iff.2 ⟨by exact_mod_cast hw, by exact_mod_cast hw'⟩
  rw [hfloor hge (by linarith), hfloor hlower (by linarith)]

/-- Where doubles have fractions only the double next below a half is taken too far. -/
theorem floor_of_exponent_neg (he : b.exponent < 0) :
    ⌊d.value⌋ = ⌊b.value + 1 / 2⌋ ∧ ¬Crosses b.value ∨
      ⌊d.value⌋ = ⌊b.value + 1 / 2⌋ + 1 ∧ Crosses b.value := by
  have hupper := hb.abs_value_lt
  have hsmall : |b.value| < 2 ^ 52 := by
    have hpow : (2 : ℚ) ^ (b.exponent + 53) ≤ 2 ^ (52 : ℤ) :=
      zpow_le_zpow_right₀ one_le_two (by omega)
    exact_mod_cast hupper.trans_le hpow
  -- The exact sum is a multiple of the unit of the number.
  obtain ⟨i, hi⟩ := exists_mul_zpow_eq (t := b.exponent) (e := -1) (by omega) 1
  have hsum : b.value + 1 / 2 = ((b.signed + i : ℤ) : ℚ) * 2 ^ b.exponent := by
    rw [Int.cast_add, add_mul, ← hi, Binary.value]
    norm_num
  rcases le_or_gt (gridExponent (b.value + 1 / 2)) b.exponent with hle | hlt
  · obtain ⟨j, hj⟩ := exists_mul_zpow_eq hle (b.signed + i)
    rw [hd.value_eq (hsum.trans hj)]
    refine .inl ⟨rfl, fun h => ?_⟩
    -- Next below a half the sum has a coarser grid.
    have hvalue := h.eq_of_abs_lt hsmall
    have hpos : 0 < b.value + 1 / 2 := by
      rw [hvalue]
      norm_num
    have hgrid : -53 ≤ gridExponent (b.value + 1 / 2) := by
      refine not_lt.1 fun hgt => ?_
      have := ((gridExponent_le_iff hpos.ne').1 (Int.le_sub_one_of_lt hgt)).1
      rw [hvalue] at this
      norm_num [abs_lt] at this
    have hlower := hb.le_abs_value (by omega)
    have hpow : (2 : ℚ) ^ (-1 : ℤ) ≤ 2 ^ (b.exponent + 52) :=
      zpow_le_zpow_right₀ one_le_two (by omega)
    have := hpow.trans hlower
    rw [hvalue] at this
    norm_num [le_abs] at this
  · rcases lt_trichotomy (b.value + 1 / 2) 0 with hneg | hzero | hpos
    · -- Closer to zero than the number, the sum has no coarser grid.
      have hlower := (le_abs_of_gridExponent hneg.ne).resolve_right
        (by have := hb.least_le; omega)
      have hpow : (2 : ℚ) ^ (b.exponent + 53) ≤ 2 ^ (gridExponent (b.value + 1 / 2) + 52) :=
        zpow_le_zpow_right₀ one_le_two (by omega)
      rw [abs_of_neg hneg] at hlower
      rw [abs_of_neg (by linarith)] at hupper
      linarith
    · rw [hd.value_eq (j := 0) (by rw [hzero, Int.cast_zero, zero_mul])]
      refine .inl ⟨rfl, fun h => ?_⟩
      rw [h.eq_of_abs_lt hsmall] at hzero
      norm_num at hzero
    · rcases lt_or_ge (b.value + 1 / 2) 1 with hone | hone
      · have hfloor : ⌊b.value + 1 / 2⌋ = 0 :=
          Int.floor_eq_iff.2 ⟨by simpa using hpos.le, by simpa using hone⟩
        rw [hfloor, zero_add]
        exact floor_of_lt_one hb hd hlt hpos hone
      · refine .inl ⟨floor_of_one_le hb hd he hlt hone, fun h => ?_⟩
        rw [h.eq_of_abs_lt hsmall] at hone
        norm_num at hone

end Sum

/-! ## Rounding -/

/-- The sum is taken to the next integer just where the number crosses. -/
theorem floor_value (hb : b.Canonical) (hd : Rounded (b.value + 1 / 2) d) :
    ⌊d.value⌋ = ⌊b.value + 1 / 2⌋ ∧ ¬Crosses b.value ∨
      ⌊d.value⌋ = ⌊b.value + 1 / 2⌋ + 1 ∧ Crosses b.value := by
  rcases lt_trichotomy b.exponent 0 with hneg | hzero | hpos
  · exact floor_of_exponent_neg hb hd hneg
  · exact floor_of_exponent_zero hb hd hzero
  · have hpow : (2 : ℚ) ^ (53 : ℤ) ≤ 2 ^ (b.exponent + 52) :=
      zpow_le_zpow_right₀ one_le_two (by omega)
    have hlower := hpow.trans (hb.le_abs_value (by omega))
    obtain ⟨n, hn⟩ := Binary.exists_value_eq_mul hpos.le
    rw [value_eq_of_exponent_pos hb hd hpos]
    rw [zpow_zero, mul_one] at hn
    rw [hn, Int.floor_intCast, floor_add_half]
    rw [hn] at hlower
    refine .inl ⟨rfl, ?_⟩
    rintro (h | ⟨m, hm, -, -, hhigh⟩)
    · rw [h] at hlower
      norm_num [le_abs] at hlower
    · have hhigh' : |(m : ℚ)| < 2 ^ 53 := by exact_mod_cast hhigh
      rw [hm] at hlower
      norm_num at hlower hhigh'
      linarith

theorem ofFloat?_half : Binary.ofFloat? 0.5 = some ⟨false, 2 ^ 52, -53⟩ := by decide

theorem value_half : Binary.value ⟨false, 2 ^ 52, -53⟩ = 1 / 2 := by
  rw [Binary.value_eq_signedBy, signedBy]
  norm_num

/-- The sum of a double and a half is not too great for a double. -/
theorem abs_add_half_lt_overflow (hb : b.Canonical) : |b.value + 1 / 2| < overflow := by
  have hunit : (1 : ℚ) < 2 ^ (971 : ℤ) := one_lt_zpow₀ one_lt_two (by norm_num)
  have hsum := (abs_add_half_mem b.value).2
  have hvalue := hb.abs_value_le_greatest
  rw [overflow]
  generalize (2 : ℚ) ^ (971 : ℤ) = u at *
  linarith

theorem Crosses.abs_lt (h : Crosses v) : |v| < 2 ^ 53 := by
  rcases h with rfl | ⟨n, rfl, -, -, hn⟩
  · norm_num [abs_lt]
  · exact_mod_cast hn

/-- **Halves go up**, with the sum as a double. A double is rounded to the integer next below its
value and a half, where that fits 64 bits, exactly when it does not cross; one that crosses is
rounded to the integer after that. -/
theorem roundHalfUp?_eq_iff {x : Float} (hx : Binary.ofFloat? x = some b) :
    (roundHalfUp? x = fit? ⌊b.value + 1 / 2⌋ ↔ ¬Crosses b.value) ∧
      (Crosses b.value → roundHalfUp? x = fit? (⌊b.value + 1 / 2⌋ + 1)) := by
  have hb := canonical_of_ofFloat? hx
  have hlt := abs_add_half_lt_overflow hb
  obtain ⟨d, hd, hrounded⟩ := rounded_add hx ofFloat?_half (by rwa [value_half])
  rw [value_half] at hrounded
  have hround : roundHalfUp? x = fit? ⌊d.value⌋ := by
    rw [roundHalfUp?, hd, Option.bind_some, Binary.floor_eq]
  rw [hround]
  rcases floor_value hb hrounded with ⟨hfloor, hcrosses⟩ | ⟨hfloor, hcrosses⟩
  · rw [hfloor]
    exact ⟨iff_of_true rfl hcrosses, fun h => absurd h hcrosses⟩
  · rw [hfloor]
    refine ⟨iff_of_false (fun h => ?_) (not_not.2 hcrosses), fun _ => rfl⟩
    have habs := abs_lt.1 hcrosses.abs_lt
    have hlow : (-2 ^ 53 : ℤ) ≤ ⌊b.value + 1 / 2⌋ := by
      rw [Int.le_floor]
      push_cast
      linarith
    have hhigh : ⌊b.value + 1 / 2⌋ < 2 ^ 53 + 1 := by
      rw [Int.floor_lt]
      push_cast
      linarith
    obtain ⟨i, hi⟩ := exists_toInt_eq (n := ⌊b.value + 1 / 2⌋ + 1) (by omega)
    rw [(fit?_eq_some_iff _ _).2 hi, eq_comm, fit?_eq_some_iff] at h
    omega

/-- Two and a half below zero does not cross: it goes up to minus two. -/
theorem roundHalfUp?_eq_iff_negative :
    Binary.ofFloat? (-2.5) = some ⟨true, 5629499534213120, -51⟩ ∧
      roundHalfUp? (-2.5) = some (-2) := by
  have hx : Binary.ofFloat? (-2.5) = some ⟨true, 5629499534213120, -51⟩ := by decide
  have hvalue : Binary.value ⟨true, 5629499534213120, -51⟩ = -5 / 2 := by
    rw [Binary.value_eq_signedBy, signedBy]
    norm_num
  have hfloor : ⌊(-5 / 2 : ℚ) + 1 / 2⌋ = -2 := by norm_num
  refine ⟨hx, ?_⟩
  rw [(roundHalfUp?_eq_iff hx).1.2, hvalue, hfloor]
  · rfl
  · rw [hvalue]
    intro h
    have := h.eq_of_abs_lt (by norm_num [abs_lt])
    norm_num at this

/-- The double next below a half is less than a half and is rounded to one, and the odd integer next
to two to the power 52 is rounded to the next integer. -/
theorem roundHalfUp?_crossing :
    (∃ b, Binary.ofFloat? 0.49999999999999994 = some b ∧ |b.value| < 1 / 2 ∧
      ⌊b.value + 1 / 2⌋ = 0 ∧ roundHalfUp? 0.49999999999999994 = some 1) ∧
    ∃ b, Binary.ofFloat? 4503599627370497.0 = some b ∧ b.value = 4503599627370497 ∧
      ⌊b.value + 1 / 2⌋ = 4503599627370497 ∧
      roundHalfUp? 4503599627370497.0 = some 4503599627370498 := by
  have hhalf : Binary.value ⟨false, 9007199254740991, -54⟩ = 1 / 2 - 1 / 2 ^ 54 := by
    rw [Binary.value_eq_signedBy, signedBy]
    norm_num
  have hodd : Binary.value ⟨false, 4503599627370497, 0⟩ = 4503599627370497 := by
    rw [Binary.value_eq_signedBy, signedBy]
    norm_num
  refine ⟨⟨⟨false, 9007199254740991, -54⟩, by decide, ?_, ?_, by decide⟩,
    ⟨false, 4503599627370497, 0⟩, by decide, hodd, ?_, by decide⟩
  · rw [hhalf]
    norm_num [abs_lt]
  · rw [hhalf]
    norm_num
  · rw [hodd]
    exact floor_add_half 4503599627370497

end Assessment.Numeric
