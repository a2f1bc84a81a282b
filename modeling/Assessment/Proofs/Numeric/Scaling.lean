import Assessment.Proofs.Numeric.Figures
import Assessment.Proofs.Numeric.Power

/-!
# Rounding by scaling

Where 96 bits hold no decimal of a double, `round_to_binary` scales the double itself by a power of
ten, rounds it to a whole number and scales it back. Decimal places say how far. Significant figures
are counted from the place of the first digit, which the decimal logarithm tells.

The scale is multiplied up by squaring, so that it is a power of ten within as many roundings as it
has factors, and infinite from 309 factors on. The product with it and the quotient by it are
rounded once each; the nearest whole number between them is exact. So the result is the nearest
double to a quotient (or a product) of an integer and the scale, which is not the same as the
nearest double to a multiple of a power of ten. A product that is too great is not rounded at all:
the double has no digit so far behind the point.

* `leadingPower_spec`: the place of the first digit.
* `tenTo_spec`, `tenTo_infinite`: scales.
* `exists_nearestWhole`: the nearest whole number is exact.
* `Scales`: what scaling does to a double; `scales_roundScaled!`: that it does so.
* `roundScaled!_overflow`: when the double comes out as it is.
-/

namespace Assessment.Numeric

open Decimal

variable {x z : Float} {b c s t : Binary} {k i places : ℤ} {n : ℕ} {mode : RoundingMode}

/-! ## The first digit -/

/-- From its binary digits on, the estimate of a decimal logarithm is not too great, and less than
two too small. -/
theorem ten_zpow_estimate (hleast : -1074 ≤ i) (hgreatest : i ≤ 1023) :
    (10 : ℚ) ^ (i * 30103 / 100000) ≤ 2 ^ i ∧ (2 : ℚ) ^ (i + 1) ≤ 10 ^ (i * 30103 / 100000 + 2) := by
  refine ⟨?_, two_zpow_le_ten_zpow (by omega) (by omega)⟩
  -- The estimate itself is above the logarithm of two, so that each sign needs a nearer fraction.
  rcases le_total 0 i with hi | hi
  · have hpow : 10 ^ 643 ≤ 2 ^ 2136 := by decide +kernel
    exact_mod_cast zpow_le_zpow_of_pow_le (by norm_num) (by norm_num) hpow (by omega) (by omega)
  · have hpow : 2 ^ 485 ≤ 10 ^ 146 := by decide +kernel
    refine zpow_le_zpow_of_neg (by norm_num) two_pos ?_
    exact_mod_cast zpow_le_zpow_of_pow_le (i := -i) (k := -(i * 30103 / 100000)) (by norm_num)
      (by norm_num) hpow (by omega) (by omega)

/-- Half a step of a logarithm, as a part of the number. -/
def slack (k : ℤ) : ℚ := if k = 0 then 0 else logOfTen / (2 ^ halfStep k * 10 ^ 15)

theorem slack_nonneg (k : ℤ) : 0 ≤ slack k := by
  rw [slack]
  split <;> positivity

theorem slack_le (h : k.natAbs < 2 ^ 9) : slack k ≤ 1 / 2 ^ 43 := by
  have hbits : k.natAbs.log2 ≤ 8 := log2_le_of_lt h
  have hstep : 45 ≤ halfStep k := by
    rw [halfStep]
    split <;> omega
  have hpow : (2 : ℚ) ^ 45 ≤ 2 ^ halfStep k := pow_le_pow_right₀ one_le_two hstep
  rw [slack]
  split
  · positivity
  · rw [div_le_div_iff₀ (by positivity) (by positivity), one_mul]
    calc (logOfTen : ℚ) * 2 ^ 43 ≤ 2 ^ 45 * 10 ^ 15 := by norm_num [logOfTen]
      _ ≤ 2 ^ halfStep k * 10 ^ 15 := mul_le_mul_of_nonneg_right hpow (by positivity)

theorem reachesPower_iff (b : Binary) (k : ℤ) :
    reachesPower b k = true ↔ 10 ^ k ≤ |b.value| * (1 + slack k) := by
  obtain ⟨u, hu, hten, htwo⟩ := gridRatio_spec k b.exponent
  rw [reachesPower, b.abs_value, hten, htwo]
  generalize gridRatio k b.exponent = ratio
  obtain ⟨top, bottom⟩ := ratio
  dsimp only
  generalize hunit : Nat.pow 2 (halfStep k) * Nat.pow 10 15 = unit
  have hunit' : (unit : ℚ) = 2 ^ halfStep k * 10 ^ 15 := by
    have hpow : 2 ^ halfStep k * 10 ^ 15 = unit := hunit
    rw [← hpow]
    push_cast
    rfl
  have hpos : (0 : ℚ) < unit := by
    rw [hunit']
    positivity
  have hfactor : ((if k = 0 then unit else unit + logOfTen : ℕ) : ℚ) = unit * (1 + slack k) := by
    rw [slack, ← hunit']
    split
    · rw [add_zero, mul_one]
    · rw [Nat.cast_add, mul_add, mul_one, mul_div_cancel₀ _ hpos.ne']
  have hleft : (top : ℚ) * unit * u = top * u * unit := mul_right_comm ..
  have hright : (b.mantissa : ℚ) * bottom * (unit * (1 + slack k)) * u =
      b.mantissa * (bottom * u) * (1 + slack k) * unit := by ring
  rw [decide_eq_true_eq, ← Nat.cast_le (α := ℚ), Nat.cast_mul, Nat.cast_mul, Nat.cast_mul, hfactor,
    ← mul_le_mul_iff_left₀ hu, hleft, hright, mul_le_mul_iff_left₀ hpos]

/-- **The first digit of a double** is at the place that its logarithm tells, or at the one before
where the double is next below a power of ten. -/
theorem leadingPower_spec (hx : Binary.ofFloat? x = some b) (h0 : b.mantissa ≠ 0) :
    (-324 ≤ leadingPower x ∧ leadingPower x ≤ 308) ∧
      10 ^ leadingPower x ≤ |b.value| * (1 + 1 / 2 ^ 43) ∧
      |b.value| < 10 ^ (leadingPower x + 1) := by
  have hb := canonical_of_ofFloat? hx
  have hbits : b.mantissa.log2 < 53 := (Nat.log2_lt h0).2 hb.lt
  have hleast := hb.least_le
  have hgreatest := hb.le_greatest
  have hlow : (2 : ℚ) ^ (b.mantissa.log2 + b.exponent) ≤ |b.value| := by
    have hself : (2 : ℚ) ^ b.mantissa.log2 ≤ b.mantissa := by exact_mod_cast Nat.log2_self_le h0
    rw [b.abs_value, zpow_add₀ two_ne_zero, zpow_natCast]
    exact mul_le_mul_of_nonneg_right hself (by positivity)
  have hhigh : |b.value| < 2 ^ (b.mantissa.log2 + b.exponent + 1) := by
    have hself : (b.mantissa : ℚ) < 2 ^ (b.mantissa.log2 + 1) := by exact_mod_cast Nat.lt_log2_self
    rw [b.abs_value, add_right_comm, zpow_add₀ two_ne_zero]
    exact mul_lt_mul_of_pos_right (by exact_mod_cast hself) (by positivity)
  have hrange : -1074 ≤ b.mantissa.log2 + b.exponent ∧ b.mantissa.log2 + b.exponent ≤ 1023 := by
    omega
  rw [leadingPower, hx]
  dsimp only
  generalize (b.mantissa.log2 : ℤ) + b.exponent = i at hlow hhigh hrange ⊢
  obtain ⟨hbelow, habove⟩ := ten_zpow_estimate hrange.1 hrange.2
  have hestimate : -324 ≤ i * 30103 / 100000 ∧ i * 30103 / 100000 ≤ 307 := by omega
  generalize i * 30103 / 100000 = below at hbelow habove hestimate ⊢
  have hreaches := reachesPower_iff b (below + 1)
  have hnonneg := mul_nonneg (abs_nonneg b.value) (slack_nonneg (below + 1))
  have hslack := mul_le_mul_of_nonneg_left (slack_le (k := below + 1) (by omega)) (abs_nonneg b.value)
  split
  · have hreached := hreaches.1 ‹_›
    refine ⟨by omega, ?_, ?_⟩
    · rw [mul_add, mul_one] at hreached ⊢
      linarith
    · rw [add_assoc]
      exact hhigh.trans_le habove
  · have hmissed := not_le.1 (mt hreaches.2 ‹_›)
    rw [mul_add, mul_one] at hmissed ⊢
    refine ⟨by omega, ?_, by linarith⟩
    linarith [mul_nonneg (abs_nonneg b.value) (by positivity : (0 : ℚ) ≤ 1 / 2 ^ 43)]

/-! ## Whole doubles -/

theorem nearestInt_nearest (b : Binary) : NearestInt b.value b.nearest := by
  rw [Binary.nearest, Binary.roundBy]
  split
  · rw [Binary.value_of_nonneg ‹_›]
    exact .intCast _
  · rw [Binary.value_of_neg (not_le.1 ‹_›)]
    exact nearestInt_nearestEven b.signed (by exact_mod_cast Nat.two_pow_pos _)

/-- An integer that is not too great has a nearest double. -/
theorem exists_ofFloat?_ofInt (h0 : k ≠ 0) (hlt : |(k : ℚ)| < overflow) :
    ∃ b, Binary.ofFloat? (Float.ofInt k) = some b ∧ Rounded k b := by
  have hnat (m : ℕ) (hm : 0 < m) (hlt : (m : ℚ) < overflow) :
      ∃ b, Binary.ofFloat? (Float.ofNat m) = some b ∧ Rounded m b := by
    obtain ⟨b, hb, hrounded⟩ :=
      rounded_ofScientific hm false 0 (by simpa [signedExponent] using hlt)
    rw [signedExponent, if_neg Bool.false_ne_true, Nat.cast_zero, zpow_zero, mul_one] at hrounded
    exact ⟨b, hb, hrounded⟩
  cases k with
  | ofNat m =>
    have hm : m ≠ 0 := fun h => h0 (congrArg Int.ofNat h)
    exact hnat m (Nat.pos_of_ne_zero hm) (by simpa using hlt)
  | negSucc m =>
    rw [Int.cast_negSucc, abs_neg, Nat.abs_cast] at hlt
    obtain ⟨b, hb, hrounded⟩ := hnat (m + 1) m.succ_pos hlt
    refine ⟨b.neg, ofFloat?_neg hb, ?_⟩
    rw [Int.cast_negSucc]
    exact hrounded.neg

/-- The integer nearest to a double is a double. -/
theorem nearest_eq_mul_grid (hb : b.Canonical) :
    ∃ j : ℤ, (b.nearest : ℚ) = j * 2 ^ gridExponent (b.nearest : ℚ) := by
  have hnearest := nearestInt_nearest b
  by_cases h0 : b.nearest = 0
  · exact ⟨0, by rw [h0, Int.cast_zero, zero_mul]⟩
  rcases le_or_gt 0 b.exponent with he | he
  · -- The double is an integer itself.
    have hvalue := Binary.value_of_nonneg he
    have hself : b.nearest = b.signed * (2 ^ b.exponent.toNat : ℕ) :=
      hnearest.unique (hvalue ▸ .intCast _)
    rw [hself, ← hvalue]
    have hm : b.mantissa ≠ 0 := by
      intro hm
      rw [Binary.value_eq_zero hm] at hnearest
      exact h0 (hnearest.unique (by exact_mod_cast NearestInt.intCast 0))
    rw [gridExponent_value hb hm]
    exact b.exists_value_eq_mul le_rfl
  · have hlt : |b.value| < 2 ^ 52 := by
      refine hb.abs_value_lt.trans_le ?_
      exact_mod_cast zpow_le_zpow_right₀ (one_le_two (α := ℚ)) (by omega : b.exponent + 53 ≤ 52)
    have habs : b.nearest.natAbs ≤ (2 ^ 52 : ℤ) :=
      hnearest.natAbs_le (by exact_mod_cast hlt.le)
    have hgrid : gridExponent (b.nearest : ℚ) ≤ 0 := by
      refine (gridExponent_le_iff (Int.cast_ne_zero.2 h0)).2 ⟨?_, by norm_num⟩
      rw [← Int.cast_abs, Int.abs_eq_natAbs]
      exact_mod_cast habs.trans_lt (by norm_num : (2 : ℤ) ^ 52 < 2 ^ 53)
    obtain ⟨j, hj⟩ := exists_mul_zpow_eq hgrid b.nearest
    exact ⟨j, by rw [← hj, zpow_zero, mul_one]⟩

/-- **Rounding to a whole number** is exact. -/
theorem exists_nearestWhole (hx : Binary.ofFloat? x = some b) :
    ∃ c, Binary.ofFloat? (nearestWhole x) = some c ∧ c.value = b.nearest := by
  have hb := canonical_of_ofFloat? hx
  obtain ⟨k, hk⟩ := exists_mul_zpow_eq (t := 0) (e := 971) (by norm_num) (2 ^ 53 - 1)
  have hvalue := hb.abs_value_le_greatest
  have hgreatest := greatest_lt_overflow
  have hdigits : ((2 ^ 53 - 1 : ℤ) : ℚ) = 2 ^ 53 - 1 := by norm_num
  rw [hdigits, zpow_zero, mul_one] at hk
  rw [hk] at hvalue hgreatest
  rw [nearestWhole, roundFloat, hx]
  dsimp only
  split
  · rename_i h0
    refine ⟨_, ofFloat?_zeroOf b.negative, ?_⟩
    rw [Binary.value_eq_zero rfl, h0, Int.cast_zero]
  · have habs := (nearestInt_nearest b).natAbs_le hvalue
    have hcast : |(b.nearest : ℚ)| ≤ k := by
      rw [← Int.cast_abs, Int.abs_eq_natAbs]
      exact_mod_cast habs
    obtain ⟨c, hc, hrounded⟩ := exists_ofFloat?_ofInt ‹_› (hcast.trans_lt hgreatest)
    obtain ⟨j, hj⟩ := nearest_eq_mul_grid hb
    exact ⟨c, hc, hrounded.value_eq hj⟩

/-! ## Counts in 32 bits -/

theorem fitsInt32_iff : FitsInt32 k ↔ -2 ^ 31 ≤ k ∧ k < 2 ^ 31 := by
  have hleast : Int32.minValue.toInt = -2 ^ 31 := rfl
  have hgreatest : Int32.maxValue.toInt = 2 ^ 31 - 1 := rfl
  rw [FitsInt32, hleast, hgreatest]
  omega

theorem int32!_of_fits (h : FitsInt32 k) : int32! k = some k := if_pos h

/-- The place of the last figure, after the point. -/
def RoundingMode.scaledPlaces (mode : RoundingMode) (x : Float) (n : ℕ) : ℤ :=
  match mode with
  | .decimalPlaces => n
  | .significantFigures => n - 1 - leadingPower x

/-- Of the steps to the places only the last one leaves 32 bits, if they do not hold the places. -/
theorem scaledPlaces!_eq (hn : n < 2 ^ 31) :
    mode.scaledPlaces! x n = int32! (mode.scaledPlaces x n) := by
  cases mode with
  | decimalPlaces => exact (int32!_of_fits (fitsInt32_iff.2 (by omega))).symm
  | significantFigures =>
    have hfirst : int32! ((n : ℤ) - 1) = some ((n : ℤ) - 1) :=
      int32!_of_fits (fitsInt32_iff.2 (by omega))
    rw [RoundingMode.scaledPlaces!, hfirst]
    rfl

/-! ## Scales -/

/-- A power of ten within as many roundings as it has factors. -/
structure IsScale (n : ℕ) (s : Binary) : Prop where
  double : Binary.ofFloat? (tenTo n) = some s
  near : Near n (10 ^ n) s.value

theorem IsScale.one_le (h : IsScale n s) : 1 ≤ s.value := h.near.one_le le_rfl

theorem IsScale.pos (h : IsScale n s) : 0 < s.value := zero_lt_one.trans_le h.one_le

/-- **Scales** are powers of ten within as many roundings as they have factors. -/
theorem tenTo_spec (h : n ≤ 308) : ∃ s, IsScale n s := by
  have hpower := powerOfTen_powerBySquaring n
  rw [PowerOfTen, if_pos h] at hpower
  obtain ⟨s, hs, hnear⟩ := hpower
  exact ⟨s, hs, hnear⟩

/-- From 309 factors on they are infinite. -/
theorem tenTo_infinite (h : 308 < n) : tenTo n = infinite false := by
  have hpower := powerOfTen_powerBySquaring n
  rwa [PowerOfTen, if_neg (not_le.2 h)] at hpower

/-! ## Scaling -/

/-- What becomes of a double that is scaled by a power of ten, rounded to a whole number and scaled
back. -/
inductive Scales (x : Float) (b : Binary) : ℤ → Option Float → Prop
  /-- From the point on: a product, the integer nearest to it, and a quotient. -/
  | up {n : ℕ} {s t : Binary} {k : ℤ} {z : Float} (hs : IsScale n s)
      (ht : Rounded (b.value * s.value) t) (hk : NearestInt t.value k)
      (hz : Nearest (k / s.value) z) : Scales x b n (some z)
  /-- An infinite product has no digit to cut. -/
  | kept {n : ℕ} (h : ∀ s, IsScale n s → overflow ≤ |b.value * s.value|) : Scales x b n (some x)
  /-- Before the point: a quotient, the integer nearest to it, and a product. -/
  | down {n : ℕ} {s t : Binary} {k : ℤ} {z : Float} (hn : 0 < n) (hs : IsScale n s)
      (ht : Rounded (b.value / s.value) t) (hk : NearestInt t.value k)
      (hz : Nearest (k * s.value) z) : Scales x b (-n) (some z)
  /-- That product is too great. -/
  | lost {n : ℕ} {s t : Binary} {k : ℤ} (hn : 0 < n) (hs : IsScale n s)
      (ht : Rounded (b.value / s.value) t) (hk : NearestInt t.value k)
      (h : overflow ≤ |k * s.value|) : Scales x b (-n) none

theorem roundScaled!_natCast (x : Float) (n : ℕ) : roundScaled! x n =
    some (if (x * tenTo n).isFinite then finite? (nearestWhole (x * tenTo n) / tenTo n)
      else finite? x) := by
  rw [roundScaled!, if_pos (Int.natCast_nonneg n)]
  rfl

theorem roundScaled!_neg (hn : 0 < n) (hfits : n < 2 ^ 31) : roundScaled! x (-n) =
    some (finite? (nearestWhole (x / tenTo n) * tenTo n)) := by
  have hopposite : int32! (- -(n : ℤ)) = some n := by
    rw [neg_neg]
    exact int32!_of_fits (fitsInt32_iff.2 (by omega))
  rw [roundScaled!, if_neg (by omega), hopposite]
  rfl

theorem finite?_infinite (negative : Bool) : finite? (infinite negative) = none := by
  rw [finite?, isFinite_infinite, if_neg Bool.false_ne_true]

/-- A scaled value that is infinite has no digit to cut. -/
theorem roundScaled!_of_infinite {negative : Bool} (hx : Binary.ofFloat? x = some b)
    (hscaled : x * tenTo n = infinite negative) : roundScaled! x n = some (some x) := by
  rw [roundScaled!_natCast, hscaled, isFinite_infinite, if_neg Bool.false_ne_true,
    finite?_of_ofFloat? hx]

/-- A product that is too great, or one with a scale that is. -/
theorem roundScaled!_kept (hx : Binary.ofFloat? x = some b) (h0 : b.mantissa ≠ 0)
    (h : ∀ s, IsScale n s → overflow ≤ |b.value * s.value|) :
    roundScaled! x n = some (some x) := by
  rcases le_or_gt n 308 with hle | hgt
  · obtain ⟨s, hs⟩ := tenTo_spec hle
    exact roundScaled!_of_infinite hx (mul_of_overflow hx hs.double (h s hs))
  · have hscaled := mul_infinite hx h0 false
    rw [← tenTo_infinite hgt] at hscaled
    exact roundScaled!_of_infinite hx hscaled

/-- No scale of so many factors is a finite double. -/
theorem IsScale.le (h : IsScale n s) : n ≤ 308 := by
  by_contra hn
  have hnone : Binary.ofFloat? (tenTo n) = none := by
    rw [tenTo_infinite (not_le.1 hn)]
    rfl
  cases hnone.symm.trans h.double

/-- The quotient of a whole double by a scale is not too great. -/
theorem IsScale.abs_div_lt (hs : IsScale n s) (hc : c.Canonical) :
    |c.value / s.value| < overflow := by
  rw [abs_div, abs_of_pos hs.pos]
  exact (div_le_self (abs_nonneg _) hs.one_le).trans_lt
    (hc.abs_value_le_greatest.trans_lt greatest_lt_overflow)

/-- Places after the point. -/
theorem scales_natCast (hx : Binary.ofFloat? x = some b) (h0 : b.mantissa ≠ 0) (n : ℕ) :
    ∃ z, roundScaled! x n = some (some z) ∧ Scales x b n (some z) := by
  by_cases hkept : ∀ s, IsScale n s → overflow ≤ |b.value * s.value|
  · exact ⟨x, roundScaled!_kept hx h0 hkept, .kept hkept⟩
  · push Not at hkept
    obtain ⟨s, hs, hlt⟩ := hkept
    obtain ⟨t, ht, hrounded⟩ := rounded_mul hx hs.double hlt
    obtain ⟨w, hw, hwhole⟩ := exists_nearestWhole ht
    obtain ⟨d, hd, hquotient⟩ := rounded_div hw hs.double (parts_of_pos hs.pos).2
      (hs.abs_div_lt (canonical_of_ofFloat? hw))
    refine ⟨_, ?_, .up hs hrounded (nearestInt_nearest t) (hwhole ▸ hquotient.nearest hd)⟩
    rw [roundScaled!_natCast, isFinite_eq_isSome, ht, Option.isSome_some, if_pos rfl,
      finite?_of_ofFloat? hd]

/-- Places before the point. -/
theorem scales_neg (hx : Binary.ofFloat? x = some b) (hn : 0 < n) (hle : n ≤ 308) :
    ∃ r, roundScaled! x (-n) = some r ∧ Scales x b (-n) r := by
  obtain ⟨s, hs⟩ := tenTo_spec hle
  obtain ⟨t, ht, hrounded⟩ := rounded_div hx hs.double (parts_of_pos hs.pos).2
    (hs.abs_div_lt (canonical_of_ofFloat? hx))
  obtain ⟨w, hw, hwhole⟩ := exists_nearestWhole ht
  rw [roundScaled!_neg hn (by omega)]
  rcases lt_or_ge |w.value * s.value| overflow with hlt | hge
  · obtain ⟨d, hd, hproduct⟩ := rounded_mul hw hs.double hlt
    rw [finite?_of_ofFloat? hd]
    exact ⟨_, rfl, .down hn hs hrounded (nearestInt_nearest t) (hwhole ▸ hproduct.nearest hd)⟩
  · rw [mul_of_overflow hw hs.double hge, finite?_infinite]
    exact ⟨_, rfl, .lost hn hs hrounded (nearestInt_nearest t) (hwhole ▸ hge)⟩

/-- **Scaling** goes through with every place that a double may have before the point, and with
every place after it. -/
theorem scales_roundScaled! (hx : Binary.ofFloat? x = some b) (h0 : b.mantissa ≠ 0)
    (h : -308 ≤ places) : ∃ r, roundScaled! x places = some r ∧ Scales x b places r := by
  obtain ⟨n, rfl | rfl⟩ := places.eq_nat_or_neg
  · obtain ⟨z, hz, hscales⟩ := scales_natCast hx h0 n
    exact ⟨_, hz, hscales⟩
  · rcases Nat.eq_zero_or_pos n with rfl | hn
    · obtain ⟨z, hz, hscales⟩ := scales_natCast hx h0 0
      exact ⟨_, hz, hscales⟩
    · exact scales_neg hx hn (by omega)

/-- The error of a logarithm and of a scale does not make up for a power of ten. -/
theorem overflow_le_mul {v u : ℚ} (hv : 10 ^ k ≤ v * (1 + 1 / 2 ^ 43))
    (hu : 10 ^ n * (99 / 100) ≤ u) (h : 308 < k + n) : overflow ≤ v * u := by
  have hfactor : (0 : ℚ) < 1 + 1 / 2 ^ 43 := by norm_num
  have hv0 : 0 ≤ v * (1 + 1 / 2 ^ 43) := le_trans (by positivity) hv
  obtain ⟨j, hj⟩ : ∃ j : ℕ, k + n = j := Int.eq_ofNat_of_zero_le (by omega)
  have hsplit : (10 : ℚ) ^ j = 10 ^ k * 10 ^ n := by
    rw [← zpow_natCast, ← zpow_natCast, ← zpow_add₀ (by norm_num), hj]
  refine le_of_mul_le_mul_right ?_ hfactor
  calc overflow * (1 + 1 / 2 ^ 43) ≤ 10 ^ j * (9 / 10) * (1 + 1 / 2 ^ 43) :=
        mul_le_mul_of_nonneg_right (overflow_le_ten_pow (by omega)) hfactor.le
    _ = 10 ^ j * (9 / 10 * (1 + 1 / 2 ^ 43)) := mul_assoc ..
    _ ≤ 10 ^ j * (99 / 100) := mul_le_mul_of_nonneg_left (by norm_num) (by positivity)
    _ = 10 ^ k * (10 ^ n * (99 / 100)) := by rw [hsplit, mul_assoc]
    _ ≤ v * (1 + 1 / 2 ^ 43) * u := mul_le_mul hv hu (by positivity) hv0
    _ = v * u * (1 + 1 / 2 ^ 43) := mul_right_comm ..

/-- Past the greatest power of ten the double comes out as it is. -/
theorem roundScaled!_overflow (hx : Binary.ofFloat? x = some b) (h0 : b.mantissa ≠ 0)
    (hpower : 308 < leadingPower x + n) : roundScaled! x n = some (some x) := by
  refine roundScaled!_kept hx h0 fun s hs => ?_
  obtain ⟨-, hvalue, -⟩ := leadingPower_spec hx h0
  have hpart : 99 / 100 ≤ leastPart ^ n := le_leastPart_pow (by have := hs.le; omega)
  have hscale := (mul_le_mul_of_nonneg_left hpart (by positivity)).trans hs.near.low
  rw [abs_mul, abs_of_pos hs.pos]
  exact overflow_le_mul hvalue hscale hpower

/-- And so it does past 308 places. -/
theorem roundScaled!_beyond (hx : Binary.ofFloat? x = some b) (h0 : b.mantissa ≠ 0)
    (h : 308 < n) : roundScaled! x n = some (some x) :=
  roundScaled!_kept hx h0 fun _ hs => absurd hs.le (not_le.2 h)

end Assessment.Numeric
