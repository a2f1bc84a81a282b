import Assessment.Proofs.Numeric.Overflow

/-!
# Powers of ten by squaring

Each product is rounded, and the errors of its factors come on top: a power of ten is reached within
as many roundings as it has factors. A thousand roundings are less than a hundredth, and the powers
of ten on both sides of the overflow are further from it than that. So the loop is infinite exactly
where its power is too great for a double.

The loop is the one behind `powi`, with which `round_to_binary` makes its scale. The program leaves
that power to the platform; what is proved of it is a number of roundings, which any loop by
squaring keeps.

* `Near k q v`: within `k` roundings of a number.
* `PowerOfTen x n k`: the double stands for `10 ^ n`, within `k` roundings or infinite.
* `PowerOfTen.mul`: a product of two powers.
* `powerOfTen_powerBySquaring`: what the loop computes.
-/

namespace Assessment.Numeric

open Decimal

variable {x y : Float} {b c d : Binary} {q r u v : ℚ} {j k m n : ℕ}

/-! ## Roundings one after the other -/

/-- What a rounding leaves of a number at least. At most it multiplies by the inverse. -/
def leastPart : ℚ := 1 - 1 / 2 ^ 53

theorem leastPart_pos : 0 < leastPart := by norm_num [leastPart]

theorem leastPart_le_one : leastPart ≤ 1 := by norm_num [leastPart]

/-- A thousand roundings leave 99 parts of a hundred. -/
theorem le_leastPart_pow (hk : k ≤ 1000) : 99 / 100 ≤ leastPart ^ k := by
  have hbernoulli := one_add_mul_le_pow (a := -(1 / 2 ^ 53 : ℚ)) (by norm_num) k
  have hk' : (k : ℚ) ≤ 1000 := by exact_mod_cast hk
  rw [leastPart, sub_eq_add_neg]
  refine le_trans ?_ hbernoulli
  norm_num
  linarith

/-- A number within `k` roundings of another one. -/
structure Near (k : ℕ) (q v : ℚ) : Prop where
  low : q * leastPart ^ k ≤ v
  high : v * leastPart ^ k ≤ q

theorem Near.refl (q : ℚ) : Near 0 q q := by
  constructor <;> rw [pow_zero, mul_one]

theorem Near.trans (h : Near j q v) (h' : Near k v u) : Near (j + k) q u := by
  have hj : 0 ≤ leastPart ^ j := (pow_pos leastPart_pos _).le
  have hk : 0 ≤ leastPart ^ k := (pow_pos leastPart_pos _).le
  constructor
  · rw [pow_add, ← mul_assoc]
    exact (mul_le_mul_of_nonneg_right h.low hk).trans h'.low
  · rw [add_comm, pow_add, ← mul_assoc]
    exact (mul_le_mul_of_nonneg_right h'.high hj).trans h.high

theorem Near.pos (h : Near k q v) (hq : 0 < q) : 0 < v :=
  (mul_pos hq (pow_pos leastPart_pos _)).trans_le h.low

theorem Near.mul (h : Near j q v) (h' : Near k r u) (hq : 0 < q) (hr : 0 < r) :
    Near (j + k) (q * r) (v * u) := by
  have hj := pow_pos leastPart_pos j
  have hk := pow_pos leastPart_pos k
  have hv := h.pos hq
  have hu := h'.pos hr
  constructor
  · rw [pow_add, mul_mul_mul_comm]
    exact mul_le_mul h.low h'.low (mul_pos hr hk).le hv.le
  · rw [pow_add, mul_mul_mul_comm]
    exact mul_le_mul h.high h'.high (mul_pos hu hk).le hq.le

/-- From one on a double is within one rounding of its number. -/
theorem Rounded.near (h : Rounded q d) (hq : 1 ≤ q) : Near 1 q d.value := by
  have hleading : 2 ^ (gridExponent q + 52) ≤ q := by
    rcases le_abs_of_gridExponent (q := q) (by linarith) with hle | heq
    · rwa [abs_of_pos (by linarith)] at hle
    · rw [heq]
      exact (zpow_le_one_of_nonpos₀ (by norm_num) (by norm_num)).trans hq
  have hunit : (2 : ℚ) ^ gridExponent q / 2 ≤ q * (1 / 2 ^ 53) := by
    rw [zpow_add₀ two_ne_zero] at hleading
    norm_num at hleading ⊢
    linarith
  obtain ⟨hlow, hhigh⟩ := abs_le.1 (h.abs_sub_le.trans hunit)
  constructor
  · rw [pow_one, leastPart, mul_sub, mul_one]
    linarith
  · calc d.value * leastPart ^ 1 ≤ q * (1 + 1 / 2 ^ 53) * leastPart ^ 1 :=
          mul_le_mul_of_nonneg_right (by linarith) (pow_pos leastPart_pos _).le
      _ = q * (1 - 1 / 2 ^ 106) := by
          rw [pow_one, leastPart]
          ring
      _ ≤ q := mul_le_of_le_one_right (by linarith) (by norm_num)

/-! ## Powers of ten -/

theorem overflow_mul_two : overflow * 2 = (18014398509481983 * 2 ^ 971 : ℕ) := by
  rw [overflow, Nat.cast_mul, Nat.cast_pow, ← zpow_natCast, mul_right_comm]
  norm_num

/-- A tenth more does not matter for a finite power. -/
theorem ten_pow_lt_overflow (h : n ≤ 308) : (10 : ℚ) ^ n < overflow * (9 / 10) := by
  have hnat : 10 ^ 308 * 20 < 18014398509481983 * 2 ^ 971 * 9 := by decide +kernel
  have hcast := (Nat.cast_lt (α := ℚ)).2 hnat
  rw [Nat.cast_mul (_ * _), ← overflow_mul_two, Nat.cast_mul, Nat.cast_pow] at hcast
  simp only [Nat.cast_ofNat] at hcast
  refine (pow_le_pow_right₀ (by norm_num) h).trans_lt ?_
  generalize (10 : ℚ) ^ 308 = greatest at hcast ⊢
  linarith

/-- A tenth less does not matter for an infinite one. -/
theorem overflow_le_ten_pow (h : 308 < n) : overflow ≤ (10 : ℚ) ^ n * (9 / 10) := by
  have hnat : 18014398509481983 * 2 ^ 971 * 10 < 10 ^ 309 * 18 := by decide +kernel
  have hcast := (Nat.cast_lt (α := ℚ)).2 hnat
  rw [Nat.cast_mul (_ * _), ← overflow_mul_two, Nat.cast_mul, Nat.cast_pow] at hcast
  simp only [Nat.cast_ofNat] at hcast
  refine le_trans ?_ (mul_le_mul_of_nonneg_right (pow_le_pow_right₀ (by norm_num) h) (by norm_num))
  generalize (10 : ℚ) ^ 309 = least at hcast ⊢
  linarith

/-- A double that stands for a power of ten: it is within `k` roundings, or infinite where the power
is beyond the doubles. -/
def PowerOfTen (x : Float) (n k : ℕ) : Prop :=
  if n ≤ 308 then ∃ b, Binary.ofFloat? x = some b ∧ Near k (10 ^ n) b.value
  else x = infinite false

theorem parts_of_pos (h : 0 < b.value) : b.negative = false ∧ b.mantissa ≠ 0 := by
  constructor
  · refine Bool.eq_false_iff.2 fun hneg => ?_
    rw [b.value_eq_signedBy, hneg, signedBy, if_pos rfl] at h
    have : (0 : ℚ) ≤ b.mantissa * 2 ^ b.exponent := by positivity
    linarith
  · intro h0
    rw [Binary.value_eq_zero h0] at h
    exact lt_irrefl _ h

/-- Fewer roundings than factors leave a power of ten at one at least. -/
theorem Near.one_le (h : Near k (10 ^ n) v) (hk : k ≤ n) : 1 ≤ v := by
  have hbase : 1 ≤ 10 * leastPart := by norm_num [leastPart]
  have hone : leastPart ^ n ≤ leastPart ^ k :=
    pow_le_pow_of_le_one leastPart_pos.le leastPart_le_one hk
  calc 1 ≤ (10 * leastPart) ^ n := one_le_pow₀ hbase
    _ = 10 ^ n * leastPart ^ n := mul_pow ..
    _ ≤ 10 ^ n * leastPart ^ k := mul_le_mul_of_nonneg_left hone (by positivity)
    _ ≤ v := h.low

/-- Two powers of ten that are finite. -/
theorem powerOfTen_mul (hx : Binary.ofFloat? x = some b) (hy : Binary.ofFloat? y = some c)
    (hb : Near j (10 ^ m) b.value) (hc : Near k (10 ^ n) c.value) (hj : j ≤ m) (hk : k ≤ n)
    (hjk : j + k ≤ 1000) :
    PowerOfTen (x * y) (m + n) (j + k + 1) := by
  have hten (n : ℕ) : (0 : ℚ) < 10 ^ n := by positivity
  have hbpos := hb.pos (hten m)
  have hcpos := hc.pos (hten n)
  have hpos := mul_pos hbpos hcpos
  have hnear := hb.mul hc (hten m) (hten n)
  rw [← pow_add] at hnear
  have hpart := le_leastPart_pow hjk
  rw [PowerOfTen]
  split
  · have hlt : b.value * c.value < overflow := by
      have hscaled := mul_le_mul_of_nonneg_left hpart hpos.le
      linarith [hnear.high, ten_pow_lt_overflow ‹_›]
    obtain ⟨d, hd, hrounded⟩ := rounded_mul hx hy (by rwa [abs_of_pos hpos])
    exact ⟨d, hd, hnear.trans (hrounded.near (hnear.one_le (by omega)))⟩
  · have hge : overflow ≤ b.value * c.value := by
      have hscaled := mul_le_mul_of_nonneg_left hpart (hten (m + n)).le
      linarith [hnear.low, overflow_le_ten_pow (not_le.1 ‹_›)]
    rw [mul_of_overflow hx hy (by rwa [abs_of_pos hpos]), (parts_of_pos hbpos).1, (parts_of_pos hcpos).1]
    rfl

/-- **The product of two powers of ten**: the roundings add up, and the product is infinite just
where the power is. -/
theorem PowerOfTen.mul (hx : PowerOfTen x m j) (hy : PowerOfTen y n k) (hj : j ≤ m) (hk : k ≤ n) :
    PowerOfTen (x * y) (m + n) (j + k + 1) := by
  have hten (n : ℕ) : (0 : ℚ) < 10 ^ n := by positivity
  rw [PowerOfTen] at hx hy
  split at hx <;> split at hy
  · obtain ⟨b, hb, hnear⟩ := hx
    obtain ⟨c, hc, hnear'⟩ := hy
    exact powerOfTen_mul hb hc hnear hnear' hj hk (by omega)
  · obtain ⟨b, hb, hnear⟩ := hx
    obtain ⟨hnegative, h0⟩ := parts_of_pos (hnear.pos (hten m))
    rw [PowerOfTen, if_neg (by omega), hy, mul_infinite hb h0, hnegative]
    rfl
  · obtain ⟨c, hc, hnear⟩ := hy
    obtain ⟨hnegative, h0⟩ := parts_of_pos (hnear.pos (hten n))
    rw [PowerOfTen, if_neg (by omega), hx, infinite_mul hc h0, hnegative]
    rfl
  · rw [PowerOfTen, if_neg (by omega), hx, hy, infinite_mul_infinite]
    rfl

/-- A step of the loop takes a square, of one rounding less than factors. -/
theorem PowerOfTen.square (hx : PowerOfTen x m (m - 1)) (hm : 1 ≤ m) :
    PowerOfTen (x * x) (2 * m) (2 * m - 1) := by
  have hmul := hx.mul hx (Nat.sub_le _ _) (Nat.sub_le _ _)
  have hcount : m - 1 + (m - 1) + 1 = 2 * m - 1 := by omega
  rwa [hcount, ← two_mul] at hmul

/-- It multiplies such a power to the factors before it. -/
theorem PowerOfTen.accumulate (hy : PowerOfTen y j j) (hx : PowerOfTen x m (m - 1)) (hm : 1 ≤ m) :
    PowerOfTen (y * x) (j + m) (j + m) := by
  have hmul := hy.mul hx le_rfl (Nat.sub_le _ _)
  have hcount : j + (m - 1) + 1 = j + m := by omega
  rwa [hcount] at hmul

/-- **Squaring computes powers**: the loop multiplies the power to the factors before it. -/
theorem powerOfTen_powerBySquaring_mul (hx : PowerOfTen x m (m - 1)) (hm : 1 ≤ m)
    (hy : PowerOfTen y j j) : PowerOfTen (powerBySquaring x y n) (j + m * n) (j + m * n) := by
  -- The base stays one rounding behind its factors, which leaves one for each product.
  fun_induction powerBySquaring x y n generalizing m j with
  | case1 x y h =>
    rw [mul_one]
    exact hy.accumulate hx hm
  | case2 x y n hlt h1 =>
    obtain rfl : n = 0 := by omega
    exact hy
  | case3 x y n hn ih =>
    have hsquare := hx.square hm
    split at ih
    · have hodd : j + m + 2 * m * (n / 2) = j + m * n := by
        have hhalf : 2 * (n / 2) + 1 = n := by omega
        calc j + m + 2 * m * (n / 2) = j + m * (2 * (n / 2) + 1) := by ring
          _ = j + m * n := by rw [hhalf]
      rw [if_pos ‹_›, ← hodd]
      exact ih hsquare (by omega) (hy.accumulate hx hm)
    · have heven : j + 2 * m * (n / 2) = j + m * n := by
        have hhalf : 2 * (n / 2) = n := by omega
        rw [mul_comm 2 m, mul_assoc, hhalf]
      rw [if_neg ‹_›, ← heven]
      exact ih hsquare (by omega) hy

/-- **Powers of ten** come out within as many roundings as they have factors, or infinite. -/
theorem powerOfTen_powerBySquaring (n : ℕ) : PowerOfTen (powerBySquaring 10.0 1.0 n) n n := by
  have hten : Binary.ofFloat? 10.0 = some ⟨false, 5629499534213120, -49⟩ := by decide +kernel
  have hone : Binary.ofFloat? 1.0 = some ⟨false, 4503599627370496, -52⟩ := by decide +kernel
  have hbase : PowerOfTen 10.0 1 (1 - 1) := by
    have hvalue : Binary.value ⟨false, 5629499534213120, -49⟩ = 10 ^ 1 := by
      norm_num [Binary.value, Binary.signed]
    rw [PowerOfTen, if_pos (by omega)]
    exact ⟨_, hten, hvalue ▸ .refl _⟩
  have hstart : PowerOfTen 1.0 0 0 := by
    have hvalue : Binary.value ⟨false, 4503599627370496, -52⟩ = 10 ^ 0 := by
      norm_num [Binary.value, Binary.signed]
    rw [PowerOfTen, if_pos (by omega)]
    exact ⟨_, hone, hvalue ▸ .refl _⟩
  have hpower := powerOfTen_powerBySquaring_mul (n := n) hbase le_rfl hstart
  rwa [zero_add, one_mul] at hpower

end Assessment.Numeric
