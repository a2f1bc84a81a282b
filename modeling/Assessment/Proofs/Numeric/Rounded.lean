import Assessment.Proofs.Numeric.Exact

/-!
# Correct rounding

The doubles near a number are the multiples of a power of two, with at most 53 digits. A sum, a
product, a quotient and a decimal are rounded correctly: their double is the multiple nearest to the
exact result, the even one of two. Digits are dropped one after the other on the way there, but
what a shift keeps of them, the next digit and whether there is more, is enough to tell which
multiple is the nearest.

The doubles here are those of the float model, whose arithmetic is defined by shifts and a last
rounding. The law of correct rounding is stated on the rationals, so that results about `round_to`
or the mean of a sample need not know how a double is computed.

* `NearestInt`: the nearest integer, the even one of two; there is only one.
* `gridExponent`: the power of two whose multiples are the doubles near a number.
* `Rounded`: the parts of a double are the nearest multiple.
* `Represents`: what the digits that are kept, the next one and the rest have to say of a number.
* `rounded_roundWithAccuracy`: rounding such digits gives the nearest multiple.
-/

namespace Assessment

/-! ## The nearest integer -/

/-- The integer nearest to a number, the even one of two. -/
@[mk_iff]
structure NearestInt (q : ℚ) (n : ℤ) : Prop where
  close : |n - q| ≤ 1 / 2
  even : |n - q| = 1 / 2 → Even n

namespace NearestInt

variable {q : ℚ} {n k : ℤ}

theorem of_lt (h : |n - q| < 1 / 2) : NearestInt q n := ⟨h.le, fun heq => absurd heq h.ne⟩

theorem intCast (n : ℤ) : NearestInt n n := of_lt (by norm_num)

theorem neg (h : NearestInt q n) : NearestInt (-q) (-n) := by
  have habs : |((-n : ℤ) : ℚ) - -q| = |n - q| := by
    rw [Int.cast_neg, neg_sub_neg, abs_sub_comm]
  exact ⟨habs ▸ h.close, fun heq => (h.even (habs ▸ heq)).neg⟩

/-- The nearest integer is not beyond an integer that the number is not beyond. -/
theorem le_of_le (h : NearestInt q n) (hk : q ≤ k) : n ≤ k := by
  have hclose := (abs_le.1 h.close).2
  have hlt : (n : ℚ) < (k + 1 : ℤ) := by
    push_cast
    linarith
  exact Int.lt_add_one_iff.1 (Int.cast_lt.1 hlt)

theorem ge_of_ge (h : NearestInt q n) (hk : k ≤ q) : k ≤ n := by
  have hneg := h.neg.le_of_le (k := -k) (by push_cast; linarith)
  omega

theorem natAbs_le (h : NearestInt q n) (hk : |q| ≤ k) : n.natAbs ≤ k := by
  obtain ⟨hlow, hhigh⟩ := abs_le.1 hk
  have hge : -k ≤ n := h.ge_of_ge (by exact_mod_cast hlow)
  have hle := h.le_of_le hhigh
  omega

/-- The nearest integer is not below an even one that the number is at most half a unit below. -/
theorem ge_of_half_le (h : NearestInt q n) (hk : Even k)
    (hq : (k : ℚ) - 1 / 2 ≤ q) : k ≤ n := by
  refine not_lt.1 fun hlt => ?_
  have hle : (n : ℚ) + 1 ≤ k := by exact_mod_cast hlt
  have hclose := (abs_le.1 h.close).1
  have htie : |(n : ℚ) - q| = 1 / 2 := by
    rw [abs_of_neg (by linarith)]
    linarith
  have heq : n + 1 = k := by
    have : (n : ℚ) + 1 = k := by linarith
    exact_mod_cast this
  exact (Int.even_add_one.1 (heq ▸ hk)) (h.even htie)

/-- No integer is nearer, and one that is as near leaves the nearest one even. -/
theorem le_abs_sub (h : NearestInt q n) (k : ℤ) :
    |n - q| ≤ |k - q| ∧ (k ≠ n → |k - q| = |n - q| → Even n) := by
  rcases eq_or_ne k n with rfl | hne
  · exact ⟨le_rfl, fun hk => absurd rfl hk⟩
  have hone : 1 ≤ |(k : ℚ) - n| := by exact_mod_cast Int.one_le_abs (sub_ne_zero.2 hne)
  have htriangle : |(k : ℚ) - n| ≤ |k - q| + |n - q| := by
    rw [abs_sub_comm (n : ℚ) q]
    exact abs_sub_le _ _ _
  have hclose := h.close
  refine ⟨by linarith, fun _ heq => h.even ?_⟩
  linarith

theorem unique (h : NearestInt q n) (hk : NearestInt q k) : n = k := by
  by_contra hne
  obtain ⟨hle, heven⟩ := h.le_abs_sub k
  obtain ⟨hle', heven'⟩ := hk.le_abs_sub n
  have heq := le_antisymm hle hle'
  obtain ⟨a, ha⟩ := heven (Ne.symm hne) heq.symm
  obtain ⟨c, hc⟩ := heven' hne heq
  -- Two even integers are not within one of each other.
  have hclose := (abs_le.1 h.close)
  have hclose' := (abs_le.1 hk.close)
  have hlt : (n : ℚ) < (k + 2 : ℤ) := by push_cast; linarith
  have hlt' : (k : ℚ) < (n + 2 : ℤ) := by push_cast; linarith
  have := Int.cast_lt.1 hlt
  have := Int.cast_lt.1 hlt'
  omega

end NearestInt

namespace Decimal

/-- Half a unit away is half a unit above the quotient rounded down. -/
theorem emod_of_nearestEven_tie {n d : ℤ} (hd : 0 < d)
    (h : |2 * (d * nearestEven n d - n)| = d) : 2 * (n % d) = d := by
  have hdiv := Int.mul_ediv_add_emod n d
  have hlow := Int.emod_nonneg n hd.ne'
  have hhigh := Int.emod_lt_of_pos n hd
  have hnext : d * (n / d + 1) = d * (n / d) + d := by rw [Int.mul_add, Int.mul_one]
  rw [abs_eq hd.le, nearestEven] at h
  split at h
  · omega
  · split at h
    · omega
    · omega

/-- A quotient is rounded to the nearest integer. -/
theorem nearestInt_nearestEven (n : ℤ) {d : ℤ} (hd : 0 < d) :
    NearestInt (n / d) (nearestEven n d) := by
  have hd' : (0 : ℚ) < d := Int.cast_pos.2 hd
  have habs : |(nearestEven n d : ℚ) - n / d| =
      (|2 * (d * nearestEven n d - n)| : ℤ) / (2 * d) := by
    have hsub : (nearestEven n d : ℚ) - n / d =
        (2 * (d * nearestEven n d - n) : ℤ) / (2 * d) := by
      push_cast
      field_simp
    rw [hsub, abs_div, abs_of_pos (by linarith : (0 : ℚ) < 2 * d), Int.cast_abs]
  rw [nearestInt_iff, habs, div_le_iff₀ (by linarith), div_eq_iff (by linarith), one_div,
    inv_mul_cancel_left₀ two_ne_zero, Int.cast_le, Int.cast_inj]
  refine ⟨abs_le.2 (nearestEven_close hd), fun h => ?_⟩
  exact Int.even_iff.2 (nearestEven_tie (emod_of_nearestEven_tie hd h))

end Decimal

/-! ## The doubles near a number -/

namespace Numeric

open Decimal Float.Model Float.Model.UnpackedFloat

/-- The exponent of the doubles near a number: the first of 53 digits is not zero, unless the
exponent is the least of all. -/
def gridExponent (q : ℚ) : ℤ := max (Int.log 2 |q| - 52) (-1074)

variable {q r y : ℚ} {b c d : Binary} {e j t : ℤ} {k m n : ℕ} {em : ExtendedMantissa}

theorem gridExponent_neg (q : ℚ) : gridExponent (-q) = gridExponent q := by
  rw [gridExponent, abs_neg, gridExponent]

theorem gridExponent_le_iff (hq : q ≠ 0) :
    gridExponent q ≤ e ↔ |q| < 2 ^ (e + 53) ∧ -1074 ≤ e := by
  have hlog := Int.lt_zpow_iff_log_lt (b := 2) one_lt_two (x := e + 53) (abs_pos.2 hq)
  rw [Nat.cast_ofNat] at hlog
  rw [gridExponent, hlog]
  omega

theorem abs_lt_of_gridExponent (q : ℚ) : |q| < 2 ^ (gridExponent q + 53) := by
  rcases eq_or_ne q 0 with rfl | hq
  · rw [abs_zero]
    positivity
  · exact ((gridExponent_le_iff hq).1 le_rfl).1

theorem least_le_gridExponent (q : ℚ) : -1074 ≤ gridExponent q := le_max_right _ _

/-- The first digit is not zero, but for the least exponent. -/
theorem le_abs_of_gridExponent (hq : q ≠ 0) :
    2 ^ (gridExponent q + 52) ≤ |q| ∨ gridExponent q = -1074 := by
  rcases (least_le_gridExponent q).eq_or_lt with heq | hlt
  · exact .inr heq.symm
  · refine .inl (not_lt.1 fun h => ?_)
    have hle : gridExponent q ≤ gridExponent q - 1 :=
      (gridExponent_le_iff hq).2 ⟨by rwa [sub_add_eq_add_sub, add_sub_assoc], by omega⟩
    omega

/-- Parts that are the multiple nearest to a number. -/
structure Rounded (q : ℚ) (b : Binary) : Prop where
  canonical : b.Canonical
  exists_nearestInt : ∃ n : ℤ, NearestInt (q / 2 ^ gridExponent q) n ∧
    b.value = n * 2 ^ gridExponent q ∧ (Even n → Even b.mantissa)

theorem Rounded.neg (h : Rounded q b) : Rounded (-q) b.neg := by
  obtain ⟨hb, n, hn, hvalue, heven⟩ := h
  refine ⟨hb.neg, -n, ?_, ?_, fun h => heven (by simpa using h)⟩
  · rw [gridExponent_neg, neg_div]
    exact hn.neg
  · rw [gridExponent_neg, Binary.value_neg, hvalue, Int.cast_neg, neg_mul]

/-- On the grid the nearest multiple is the nearest of all multiples. -/
theorem Rounded.le_abs_sub_of_mul (h : Rounded q b) (j : ℤ) :
    |b.value - q| ≤ |j * 2 ^ gridExponent q - q| ∧
      (j * 2 ^ gridExponent q ≠ b.value → |j * 2 ^ gridExponent q - q| = |b.value - q| →
        Even b.mantissa) := by
  obtain ⟨-, n, hn, hvalue, heven⟩ := h
  have hunit : (0 : ℚ) < 2 ^ gridExponent q := by positivity
  have habs (j : ℤ) : |j * 2 ^ gridExponent q - q| =
      |j - q / 2 ^ gridExponent q| * 2 ^ gridExponent q := by
    rw [← abs_of_pos hunit, ← abs_mul, abs_of_pos hunit, sub_mul, div_mul_cancel₀ _ hunit.ne']
  obtain ⟨hle, htie⟩ := hn.le_abs_sub j
  rw [hvalue, habs, habs]
  refine ⟨mul_le_mul_of_nonneg_right hle hunit.le, fun hne heq => heven (htie ?_ ?_)⟩
  · rintro rfl
    exact hne rfl
  · exact mul_right_cancel₀ hunit.ne' heq

/-- **The nearest double**: no parts of doubles are nearer to the number, and other parts that are
as near leave an even mantissa. -/
theorem Rounded.le_abs_sub (h : Rounded q b) (hc : c.Canonical) :
    |b.value - q| ≤ |c.value - q| ∧
      (c.value ≠ b.value → |c.value - q| = |b.value - q| → Even b.mantissa) := by
  by_cases hq : q = 0
  · obtain ⟨n, hn, hvalue, -⟩ := h.exists_nearestInt
    rw [hq, zero_div] at hn
    have hzero : b.value = q := by
      rw [hvalue, hn.unique (by simpa using NearestInt.intCast 0), hq, Int.cast_zero, zero_mul]
    rw [hzero, sub_self, abs_zero]
    exact ⟨abs_nonneg _, fun hne heq => absurd (sub_eq_zero.1 (abs_eq_zero.1 heq)) hne⟩
  rcases le_or_gt (gridExponent q) c.exponent with hle | hlt
  · obtain ⟨j, hj⟩ := Binary.exists_value_eq_mul hle
    rw [hj]
    exact h.le_abs_sub_of_mul j
  · -- Finer than the grid there are only doubles closer to zero than some multiple is.
    have hleading := (le_abs_of_gridExponent hq).resolve_right (by have := hc.least_le; omega)
    have hfine : |c.value| < 2 ^ (gridExponent q + 52) :=
      hc.abs_value_lt.trans_le (zpow_le_zpow_right₀ one_le_two (by omega))
    have hsplit : (2 : ℚ) ^ (gridExponent q + 52) = 2 ^ 52 * 2 ^ gridExponent q := by
      rw [add_comm, zpow_add₀ two_ne_zero]
      rfl
    obtain ⟨j, hj⟩ : ∃ j : ℤ, |j * 2 ^ gridExponent q - q| = |q| - 2 ^ (gridExponent q + 52) := by
      rcases lt_or_gt_of_ne hq with hneg | hpos
      · refine ⟨-2 ^ 52, ?_⟩
        rw [abs_of_neg hneg, hsplit] at hleading ⊢
        push_cast
        rw [abs_of_nonneg (by linarith)]
        ring
      · refine ⟨2 ^ 52, ?_⟩
        rw [abs_of_pos hpos, hsplit] at hleading ⊢
        push_cast
        rw [abs_of_nonpos (by linarith)]
        ring
    have hnearer : |b.value - q| < |c.value - q| := by
      calc |b.value - q| ≤ |q| - 2 ^ (gridExponent q + 52) := hj ▸ (h.le_abs_sub_of_mul j).1
        _ < |q| - |c.value| := by linarith
        _ ≤ |c.value - q| := by
          rw [abs_sub_comm]
          exact abs_sub_abs_le_abs_sub _ _
    exact ⟨hnearer.le, fun _ heq => absurd heq hnearer.ne'⟩

/-- A double is nearest to a number: no double is nearer, and another one that is as near leaves it
with an even mantissa. -/
def Nearest (q : ℚ) (x : Float) : Prop :=
  ∃ b, Binary.ofFloat? x = some b ∧ ∀ y c, Binary.ofFloat? y = some c →
    |b.value - q| ≤ |c.value - q| ∧
      (c.value ≠ b.value → |c.value - q| = |b.value - q| → Even b.mantissa)

theorem Rounded.nearest {x : Float} (h : Rounded q b) (hx : Binary.ofFloat? x = some b) :
    Nearest q x :=
  ⟨b, hx, fun _ _ hy => h.le_abs_sub (canonical_of_ofFloat? hy)⟩

theorem Rounded.le_of_le (h : Rounded q d) (hq : q ≤ j * 2 ^ gridExponent q) :
    d.value ≤ j * 2 ^ gridExponent q := by
  obtain ⟨-, n, hn, hvalue, -⟩ := h
  have hunit : (0 : ℚ) < 2 ^ gridExponent q := by positivity
  rw [hvalue]
  refine mul_le_mul_of_nonneg_right (Int.cast_le.2 (hn.le_of_le ?_)) hunit.le
  rwa [div_le_iff₀ hunit]

theorem Rounded.ge_of_ge (h : Rounded q d) (hq : j * 2 ^ gridExponent q ≤ q) :
    j * 2 ^ gridExponent q ≤ d.value := by
  obtain ⟨-, n, hn, hvalue, -⟩ := h
  have hunit : (0 : ℚ) < 2 ^ gridExponent q := by positivity
  rw [hvalue]
  refine mul_le_mul_of_nonneg_right (Int.cast_le.2 (hn.ge_of_ge ?_)) hunit.le
  rwa [le_div_iff₀ hunit]

/-- A multiple is kept. -/
theorem Rounded.value_eq (h : Rounded q d) (hq : q = j * 2 ^ gridExponent q) : d.value = q :=
  le_antisymm (hq ▸ h.le_of_le hq.le) (hq ▸ h.ge_of_ge hq.ge)

/-- The nearest multiple is the one that is the nearest integer number of units. -/
theorem Rounded.value_eq_of_nearestInt (h : Rounded q d) (hj : NearestInt (q / 2 ^ gridExponent q) j) :
    d.value = j * 2 ^ gridExponent q := by
  obtain ⟨-, n, hn, hvalue, -⟩ := h
  rw [hvalue, hn.unique hj]

/-- The nearest multiple is at most half a unit away. -/
theorem Rounded.abs_sub_le (h : Rounded q d) : |d.value - q| ≤ 2 ^ gridExponent q / 2 := by
  obtain ⟨-, n, hn, hvalue, -⟩ := h
  have hunit : (0 : ℚ) < 2 ^ gridExponent q := by positivity
  have hsub : d.value - q = (n - q / 2 ^ gridExponent q) * 2 ^ gridExponent q := by
    rw [hvalue, sub_mul, div_mul_cancel₀ _ hunit.ne']
  rw [hsub, abs_mul, abs_of_pos hunit]
  linarith [mul_le_mul_of_nonneg_right hn.close hunit.le]

/-! ## Digits that are kept -/

/-- The digits that are kept, half a unit when the next digit is set, and a rest below half a unit
that there is when the sticky bit is set: together they are a number. -/
def Represents (em : ExtendedMantissa) (y : ℚ) : Prop :=
  ∃ δ : ℚ, 0 ≤ δ ∧ δ < 1 / 2 ∧ (em.stickyBit = true ↔ 0 < δ) ∧
    y = em.mantissa + em.roundBit.toNat / 2 + δ

theorem represents_exact (m : ℕ) : Represents (.ofMantissaAndAccuracy m .exact) m :=
  ⟨0, le_rfl, by norm_num, iff_of_false Bool.false_ne_true (lt_irrefl 0), by
    simp [ExtendedMantissa.ofMantissaAndAccuracy]⟩

/-- A rest of a division is told by its place in the divisor. -/
theorem represents_accuracyOfFraction (m : ℕ) (h : k < n) :
    Represents (.ofMantissaAndAccuracy m (accuracyOfFraction k n)) (m + k / n) := by
  have hn : (0 : ℚ) < n := Nat.cast_pos.2 (by omega)
  rw [accuracyOfFraction]
  split
  · rw [‹k = 0›, Nat.cast_zero, zero_div, add_zero]
    exact represents_exact m
  have hk : (0 : ℚ) < k := Nat.cast_pos.2 (by omega)
  rcases lt_trichotomy (2 * k) n with hlt | heq | hgt
  · have hlt' : (2 * k : ℚ) < n := by exact_mod_cast hlt
    rw [compare_lt_iff_lt.2 hlt]
    refine ⟨k / n, by positivity, ?_, iff_of_true rfl (by positivity), ?_⟩
    · rw [div_lt_iff₀ hn]
      linarith
    · simp [ExtendedMantissa.ofMantissaAndAccuracy]
  · have heq' : (2 * k : ℚ) = n := by exact_mod_cast heq
    rw [compare_eq_iff_eq.2 heq]
    refine ⟨0, le_rfl, by norm_num, iff_of_false Bool.false_ne_true (lt_irrefl 0), ?_⟩
    simp only [ExtendedMantissa.ofMantissaAndAccuracy, Bool.toNat_true, ← heq']
    field_simp
    norm_num
  · have hgt' : (n : ℚ) < 2 * k := by exact_mod_cast hgt
    have hlt' : (k : ℚ) < n := Nat.cast_lt.2 h
    rw [compare_gt_iff_gt.2 hgt]
    refine ⟨k / n - 1 / 2, ?_, ?_, iff_of_true rfl ?_, ?_⟩
    · rw [sub_nonneg, le_div_iff₀ hn]
      linarith
    · rw [sub_lt_iff_lt_add, div_lt_iff₀ hn]
      linarith
    · rw [sub_pos, lt_div_iff₀ hn]
      linarith
    · simp [ExtendedMantissa.ofMantissaAndAccuracy]

/-- The last digit becomes the next one, and what was behind it goes to the rest. -/
theorem Represents.shiftRightOne (h : Represents em y) : Represents em.shiftRightOne (y / 2) := by
  obtain ⟨m, roundBit, stickyBit⟩ := em
  obtain ⟨δ, h0, h1, hsticky, rfl⟩ := h
  have hbit : (m % 2 != 0).toNat = m % 2 := by
    rcases Nat.mod_two_eq_zero_or_one m with h | h <;> rw [h] <;> rfl
  have hm : (m : ℚ) = 2 * (m / 2 : ℕ) + (m % 2 : ℕ) := by
    exact_mod_cast (Nat.div_add_mod m 2).symm
  refine ⟨roundBit.toNat / 4 + δ / 2, by positivity, ?_, ?_, ?_⟩
  · cases roundBit <;> norm_num <;> linarith
  · dsimp only [ExtendedMantissa.shiftRightOne] at hsticky ⊢
    cases roundBit
    · simpa using hsticky
    · simpa using by linarith
  · dsimp only [ExtendedMantissa.shiftRightOne]
    rw [hbit, hm]
    ring

theorem Represents.shiftRight (h : Represents em y) (k : ℕ) :
    Represents (em >>> k) (y / 2 ^ k) := by
  induction k with
  | zero =>
    rw [pow_zero, div_one]
    exact h
  | succ k ih =>
    rw [pow_succ, ← div_div]
    exact ih.shiftRightOne

theorem Represents.mantissa_le (h : Represents em y) : em.mantissa ≤ y := by
  obtain ⟨δ, h0, -, -, rfl⟩ := h
  have : (0 : ℚ) ≤ em.roundBit.toNat / 2 := by positivity
  linarith

theorem Represents.lt_mantissa (h : Represents em y) : y < em.mantissa + 1 := by
  obtain ⟨δ, -, h1, -, rfl⟩ := h
  have : (em.roundBit.toNat : ℚ) ≤ 1 := by exact_mod_cast em.roundBit.toNat_le
  linarith

/-- The rounded digits are the integer nearest to the number. -/
theorem Represents.nearestInt (h : Represents em y) : NearestInt y em.roundedMantissa := by
  obtain ⟨m, roundBit, stickyBit⟩ := em
  obtain ⟨δ, h0, h1, hsticky, rfl⟩ := h
  dsimp only at hsticky ⊢
  have hδ : stickyBit = false → δ = 0 := by
    rintro rfl
    exact le_antisymm (not_lt.1 fun h => Bool.false_ne_true (hsticky.2 h)) h0
  cases roundBit with
  | false =>
    -- Below half a unit the digits stay.
    refine .of_lt ?_
    have hm : ExtendedMantissa.roundedMantissa ⟨m, false, stickyBit⟩ = m := by
      cases stickyBit <;> rfl
    rw [hm, abs_lt, Bool.toNat_false, Nat.cast_zero, Int.cast_natCast]
    constructor <;> linarith
  | true =>
    cases stickyBit with
    | false =>
      have hm : ExtendedMantissa.roundedMantissa ⟨m, true, false⟩ = m + m % 2 := rfl
      have habs : |((m + m % 2 : ℕ) : ℚ) - (m + 1 / 2)| = 1 / 2 := by
        rcases Nat.mod_two_eq_zero_or_one m with h | h <;> rw [h] <;> push_cast <;> norm_num
      rw [hm, hδ rfl, Bool.toNat_true, Nat.cast_one, add_zero, nearestInt_iff, Int.cast_natCast,
        habs]
      refine ⟨le_rfl, fun _ => Int.even_coe_nat _ |>.2 (Nat.even_iff.2 (by omega))⟩
    | true =>
      have hpos : 0 < δ := hsticky.1 rfl
      have hm : ExtendedMantissa.roundedMantissa ⟨m, true, true⟩ = m + 1 := rfl
      refine .of_lt ?_
      rw [hm, abs_lt, Bool.toNat_true]
      push_cast
      constructor <;> linarith

/-! ## Rounding -/

variable {a : Accuracy}

/-- The least magnitude that is rounded to infinity. -/
def overflow : ℚ := (2 ^ 53 - 1 / 2) * 2 ^ (971 : ℤ)

theorem overflow_lt : overflow < 2 ^ (1024 : ℤ) := by
  calc overflow < 2 ^ (53 : ℤ) * 2 ^ (971 : ℤ) :=
        mul_lt_mul_of_pos_right (by norm_num) (by positivity)
    _ = 2 ^ (1024 : ℤ) := (zpow_add₀ two_ne_zero _ _).symm

theorem greatest_lt_overflow : (2 ^ 53 - 1) * 2 ^ (971 : ℤ) < overflow :=
  mul_lt_mul_of_pos_right (by norm_num) (by positivity)

theorem two_zpow_le_overflow (h : e ≤ 1023) : (2 : ℚ) ^ e ≤ overflow := by
  calc (2 : ℚ) ^ e ≤ 2 ^ (52 + 971 : ℤ) := zpow_le_zpow_right₀ one_le_two h
    _ = 2 ^ (52 : ℤ) * 2 ^ (971 : ℤ) := zpow_add₀ two_ne_zero _ _
    _ ≤ overflow := mul_le_mul_of_nonneg_right (by norm_num) (by positivity)

theorem targetExponent_eq (m : ℕ) (e : ℤ) :
    Format.binary64.targetExponent (totalExponent m e) = max (m.log2 + e - 52) (-1074) := by
  simp only [Format.targetExponent, totalExponent, Format.mantissaBits, Format.minExponent]
  norm_num
  omega

/-- Digits that are enough are shifted to the exponent of the doubles near the number. -/
theorem targetExponent_eq_gridExponent (h : Represents (.ofMantissaAndAccuracy m a) y) (hy : 0 < y)
    (hm : 2 ^ 52 ≤ m ∨ e ≤ -1074) :
    Format.binary64.targetExponent (totalExponent m e) = gridExponent (y * 2 ^ e) := by
  have hpos : 0 < y * 2 ^ e := by positivity
  have habs : |y * 2 ^ e| = y * 2 ^ e := abs_of_pos hpos
  have hle := h.mantissa_le
  have hlt := h.lt_mantissa
  rw [mantissa_ofMantissaAndAccuracy] at hle hlt
  rw [targetExponent_eq]
  refine le_antisymm (not_lt.1 fun hgt => ?_) ((gridExponent_le_iff hpos.ne').2 ⟨?_, by omega⟩)
  · -- The first digit would be beyond the grid.
    have hbelow := ((gridExponent_le_iff hpos.ne').1 (Int.le_sub_one_of_lt hgt)).1
    have hgrid := least_le_gridExponent (y * 2 ^ e)
    have hm0 : m ≠ 0 := by
      rintro rfl
      rw [Nat.log2_zero] at hgt
      omega
    have hmax : max ((m.log2 : ℤ) + e - 52) (-1074) - 1 + 53 = m.log2 + e := by omega
    have hself : (2 ^ m.log2 : ℚ) ≤ m := by exact_mod_cast Nat.log2_self_le hm0
    rw [habs, hmax, zpow_add₀ two_ne_zero, zpow_natCast] at hbelow
    have hpow : (0 : ℚ) < 2 ^ e := by positivity
    exact absurd (lt_of_mul_lt_mul_right hbelow hpow.le) (not_lt.2 (hself.trans hle))
  · have hself : (m + 1 : ℚ) ≤ 2 ^ (m.log2 + 1) := by exact_mod_cast Nat.lt_log2_self
    calc |y * 2 ^ e| = y * 2 ^ e := habs
      _ < 2 ^ (m.log2 + 1) * 2 ^ e := by
        exact mul_lt_mul_of_pos_right (hlt.trans_le hself) (by positivity)
      _ = 2 ^ ((m.log2 + 1 : ℕ) + e) := by rw [zpow_add₀ two_ne_zero, zpow_natCast]
      _ ≤ 2 ^ (max (m.log2 + e - 52) (-1074) + 53) := by
        refine zpow_le_zpow_right₀ one_le_two ?_
        push_cast
        omega

/-- The second shift only drops a zero that a carry leaves at the end. -/
theorem shiftToTargetExponent_carry (hn : n ≤ 2 ^ 53) (ht : -1074 ≤ t) :
    let second := shiftToTargetExponent .binary64 n t .exact
    n < 2 ^ 53 ∧ second.1.mantissa = n ∧ second.2 = t ∨
      n = 2 ^ 53 ∧ second.1.mantissa = 2 ^ 52 ∧ second.2 = t + 1 := by
  simp only [shiftToTargetExponent, shiftToExponent, targetExponent_eq, mantissa_shiftRight,
    mantissa_ofMantissaAndAccuracy]
  rcases hn.lt_or_eq with hlt | rfl
  · have hlog : n.log2 ≤ 52 := log2_le_of_lt hlt
    have hshift : (max ((n.log2 : ℤ) + t - 52) (-1074) - t).toNat = 0 := by omega
    rw [hshift]
    exact .inl ⟨hlt, by omega, by omega⟩
  · have hshift : (max (((2 ^ 53).log2 : ℤ) + t - 52) (-1074) - t).toNat = 1 := by
      rw [Nat.log2_two_pow]
      omega
    rw [hshift]
    exact .inr ⟨rfl, rfl, rfl⟩

/-- The nearest multiple has at most 53 digits, the first of them not zero, or one more when it is a
power of two. -/
theorem nearestInt_digits (hq : 0 < q) (h : NearestInt (q / 2 ^ gridExponent q) n) :
    n ≤ 2 ^ 53 ∧ (2 ^ 52 ≤ n ∨ gridExponent q = -1074) := by
  have hgrid := abs_lt_of_gridExponent q
  have hleading := le_abs_of_gridExponent hq.ne'
  rw [abs_of_pos hq] at hgrid hleading
  have hunit : (0 : ℚ) < 2 ^ gridExponent q := by positivity
  refine ⟨?_, hleading.imp_left fun hle => ?_⟩
  · have := h.le_of_le (k := 2 ^ 53) ?_
    · exact_mod_cast this
    · rw [div_le_iff₀ hunit]
      refine hgrid.le.trans_eq ?_
      rw [add_comm, zpow_add₀ two_ne_zero]
      norm_num
  · have := h.ge_of_ge (k := 2 ^ 52) ?_
    · exact_mod_cast this
    · rw [le_div_iff₀ hunit]
      refine le_trans (le_of_eq ?_) hle
      rw [add_comm, zpow_add₀ two_ne_zero]
      norm_num

/-- Below the overflow the nearest multiple is not infinite. -/
theorem nearestInt_finite (hq : 0 < q) (h : NearestInt (q / 2 ^ gridExponent q) n)
    (hlt : q < overflow) : gridExponent q < 971 ∨ gridExponent q = 971 ∧ n < 2 ^ 53 := by
  have hunit : (0 : ℚ) < 2 ^ gridExponent q := by positivity
  rcases lt_trichotomy (gridExponent q) 971 with hless | heq | hmore
  · exact .inl hless
  · -- A carry would take a number of at least the overflow.
    refine .inr ⟨heq, lt_of_le_of_ne (nearestInt_digits hq h).1 fun hcarry => ?_⟩
    have hclose := (abs_le.1 h.close).2
    rw [heq] at hclose hunit
    rw [hcarry, sub_le_iff_le_add', ← sub_le_iff_le_add, le_div_iff₀ hunit, Int.cast_natCast,
      Nat.cast_pow, Nat.cast_ofNat] at hclose
    exact absurd hlt (not_lt.2 hclose)
  · have hle := (le_abs_of_gridExponent hq.ne').resolve_right (by omega)
    rw [abs_of_pos hq] at hle
    have hoverflow : overflow < 2 ^ (gridExponent q + 52) :=
      overflow_lt.trans_le (zpow_le_zpow_right₀ one_le_two (by omega))
    exact absurd (hlt.trans hoverflow) (not_lt.2 hle)

/-- The nearest multiple as parts; one more digit becomes a greater exponent. -/
theorem rounded_of_nearestInt (hq : 0 < q) (h : NearestInt (q / 2 ^ gridExponent q) n)
    (hlt : q < overflow)
    (hparts : n < 2 ^ 53 ∧ m = n ∧ e = gridExponent q ∨
      n = 2 ^ 53 ∧ m = 2 ^ 52 ∧ e = gridExponent q + 1) : Rounded q ⟨false, m, e⟩ := by
  have hleading := (nearestInt_digits hq h).2
  have hgreatest := nearestInt_finite hq h hlt
  have hleast := least_le_gridExponent q
  have hvalue (m : ℕ) (e : ℤ) : Binary.value ⟨false, m, e⟩ = m * 2 ^ e := rfl
  rcases hparts with ⟨hn, rfl, rfl⟩ | ⟨rfl, rfl, rfl⟩
  · refine ⟨⟨hn, hleast, by dsimp only; omega, hleading⟩, m, h, ?_, (Int.even_coe_nat m).1⟩
    rw [hvalue, Int.cast_natCast]
  · have heven : Even (2 ^ 52 : ℕ) := by decide
    refine ⟨⟨Nat.pow_lt_pow_right one_lt_two (by omega), ?_, ?_, .inl le_rfl⟩, (2 ^ 53 : ℕ), h, ?_,
      fun _ => heven⟩
    · dsimp only
      omega
    · dsimp only
      omega
    · rw [hvalue, zpow_add_one₀ two_ne_zero]
      push_cast
      ring

/-- Digits that are enough become the parts of the nearest multiple, a carry moved to the exponent.
-/
theorem exists_roundWithAccuracy_nearestInt (h : Represents (.ofMantissaAndAccuracy m a) y)
    (hy : 0 < y) (hm : 2 ^ 52 ≤ m ∨ e ≤ -1074) (negative : Bool) :
    ∃ (n : ℕ) (b : Binary), NearestInt (y * 2 ^ e / 2 ^ gridExponent (y * 2 ^ e)) n ∧
      roundWithAccuracy .binary64 (toSign negative) m e a = unpackedOf b ∧
      b.negative = negative ∧
      (n < 2 ^ 53 ∧ b.mantissa = n ∧ b.exponent = gridExponent (y * 2 ^ e) ∨
        n = 2 ^ 53 ∧ b.mantissa = 2 ^ 52 ∧ b.exponent = gridExponent (y * 2 ^ e) + 1) := by
  have htarget := targetExponent_eq_gridExponent h hy hm
  have het : e ≤ gridExponent (y * 2 ^ e) := by
    rw [← htarget, targetExponent_eq]
    rcases hm with hm | he
    · have := (Nat.le_log2 (by omega)).2 hm
      omega
    · omega
  obtain ⟨k, hk⟩ : ∃ k : ℕ, gridExponent (y * 2 ^ e) = e + k := Int.le.dest het |>.imp fun _ => Eq.symm
  -- The digits at the exponent of the grid are those of a quotient by its unit.
  have hrep := h.shiftRight k
  have hquotient : y / 2 ^ k = y * 2 ^ e / 2 ^ gridExponent (y * 2 ^ e) := by
    rw [hk, zpow_add₀ two_ne_zero, zpow_natCast, mul_comm, mul_div_mul_left _ _ (by positivity)]
  have hfirst : shiftToTargetExponent .binary64 m e a =
      (ExtendedMantissa.ofMantissaAndAccuracy m a >>> k, gridExponent (y * 2 ^ e)) := by
    rw [shiftToTargetExponent, htarget, shiftToExponent, hk, add_sub_cancel_left, Int.toNat_natCast]
  have hnearest := hrep.nearestInt
  rw [hquotient] at hnearest
  have hbound := (nearestInt_digits (by positivity) hnearest).1
  have hcarry := shiftToTargetExponent_carry hbound (least_le_gridExponent (y * 2 ^ e))
  rw [roundWithAccuracy, hfirst]
  dsimp only at hcarry ⊢
  generalize shiftToTargetExponent .binary64 _ _ .exact = second at hcarry ⊢
  exact ⟨_, ⟨negative, second.1.mantissa, second.2⟩, hnearest, rfl, rfl, hcarry⟩

/-- **Rounding is correct**: digits that are enough, of a number that is not too great, become the
parts of the nearest multiple. -/
theorem rounded_roundWithAccuracy (h : Represents (.ofMantissaAndAccuracy m a) y) (hy : 0 < y)
    (hm : 2 ^ 52 ≤ m ∨ e ≤ -1074) (hlt : y * 2 ^ e < overflow) (negative : Bool) :
    ∃ b : Binary, roundWithAccuracy .binary64 (toSign negative) m e a = unpackedOf b ∧
      Rounded (signedBy negative (y * 2 ^ e)) b := by
  obtain ⟨n, ⟨sign, m', e'⟩, hnearest, heq, rfl, hparts⟩ :=
    exists_roundWithAccuracy_nearestInt h hy hm negative
  refine ⟨_, heq, ?_⟩
  have hrounded := rounded_of_nearestInt (by positivity) hnearest hlt hparts
  cases sign with
  | false => exact hrounded
  | true => exact hrounded.neg

end Numeric

end Assessment
