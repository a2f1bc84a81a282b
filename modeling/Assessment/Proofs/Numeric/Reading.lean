import Assessment.Proofs.Numeric.Arithmetic

/-!
# The double nearest to a decimal

A decimal is a natural number times a power of ten. Where both are doubles, one multiplication or
division by the power gives the nearest double; else the exact product or quotient is rounded. Far
outside the range of doubles the result is known without either.

Literals, attributes and the decimals that `round_to` reads are turned into doubles that way, and it
is the inverse of printing: a shortest decimal reads back as its double.

* `rounded_ofScientific`: the double nearest to a decimal.
* `length_digits`: how many digits a number has.
* `rounded_scaledFloat`: `scaledFloat` is the double nearest to its decimal.
-/

namespace Assessment.Numeric

open Decimal Text Float.Model Float.Model.UnpackedFloat

variable {q : ℚ} {m n : ℕ}

/-! ## Powers of ten and of two -/

/-- Two powers of two bases that compare bound one logarithm by the other. -/
theorem zpow_le_zpow_of_pow_le {a c : ℕ} {i k : ℤ} (hc : 1 ≤ c) (hm : m ≠ 0) (h : a ^ m ≤ c ^ n)
    (hi : 0 ≤ i) (hik : n * i ≤ m * k) : (a : ℚ) ^ i ≤ (c : ℚ) ^ k := by
  have hc' : (1 : ℚ) ≤ c := Nat.one_le_cast.2 hc
  have h' : (a : ℚ) ^ m ≤ (c : ℚ) ^ n := by
    rw [← Nat.cast_pow, ← Nat.cast_pow]
    exact Nat.cast_le.2 h
  refine le_of_pow_le_pow_left₀ hm (by positivity) ?_
  calc ((a : ℚ) ^ i) ^ m = ((a : ℚ) ^ m) ^ i := by rw [← zpow_natCast, zpow_comm, zpow_natCast]
    _ ≤ ((c : ℚ) ^ n) ^ i := zpow_le_zpow_left₀ hi (by positivity) h'
    _ = (c : ℚ) ^ (n * i) := by rw [zpow_mul, zpow_natCast]
    _ ≤ (c : ℚ) ^ (m * k) := zpow_le_zpow_right₀ hc' hik
    _ = ((c : ℚ) ^ k) ^ m := by rw [mul_comm, zpow_mul, zpow_natCast]

theorem zpow_le_zpow_of_neg {a c : ℚ} {i k : ℤ} (ha : 0 < a) (hc : 0 < c)
    (h : c ^ (-k) ≤ a ^ (-i)) : a ^ i ≤ c ^ k := by
  rw [zpow_neg, zpow_neg] at h
  exact (inv_le_inv₀ (by positivity) (by positivity)).1 h

/-- The logarithm of two is between 59 / 196 and 28 / 93. -/
theorem two_zpow_le_ten_zpow {i k : ℤ} (h : 28 * i ≤ 93 * k) (h' : 59 * i ≤ 196 * k) :
    (2 : ℚ) ^ i ≤ 10 ^ k := by
  have hten : (1 : ℚ) ≤ 10 := by norm_num
  rcases le_total 0 i with hi | hi
  · have hpow : 2 ^ 93 ≤ 10 ^ 28 := by norm_num
    exact_mod_cast zpow_le_zpow_of_pow_le (by norm_num) (by norm_num) hpow hi h
  rcases le_total 0 k with hk | hk
  · exact (zpow_le_one_of_nonpos₀ one_le_two hi).trans (one_le_zpow₀ hten hk)
  · have hpow : 10 ^ 59 ≤ 2 ^ 196 := by norm_num
    refine zpow_le_zpow_of_neg two_pos (by norm_num) ?_
    exact_mod_cast zpow_le_zpow_of_pow_le (i := -k) (k := -i) (by norm_num) (by norm_num) hpow
      (by omega) (by omega)

theorem ten_zpow_le_two_zpow {i k : ℤ} (h : 93 * k ≤ 28 * i) (h' : 196 * k ≤ 59 * i) :
    (10 : ℚ) ^ k ≤ 2 ^ i :=
  zpow_le_zpow_of_neg (by norm_num) two_pos (two_zpow_le_ten_zpow (by omega) (by omega))

/-! ## Far from the range of doubles -/

/-- Less than half the least double is rounded to zero. -/
theorem rounded_of_tiny (h0 : 0 < q) (h : q < 2 ^ (-1075 : ℤ)) : Rounded q ⟨false, 0, -1074⟩ := by
  have hgrid : gridExponent q = -1074 := by
    refine le_antisymm ((gridExponent_le_iff h0.ne').2 ⟨?_, le_rfl⟩) (least_le_gridExponent q)
    rw [abs_of_pos h0]
    exact h.trans_le (zpow_le_zpow_right₀ one_le_two (by norm_num))
  have hunit : (0 : ℚ) < 2 ^ (-1074 : ℤ) := by positivity
  refine ⟨canonical_zero _, 0, .of_lt ?_, ?_, fun _ => Even.zero⟩
  · rw [hgrid, Int.cast_zero, zero_sub, abs_neg, abs_of_pos (by positivity), div_lt_iff₀ hunit]
    refine h.trans_eq ?_
    rw [one_div, mul_comm, ← zpow_sub_one₀ two_ne_zero]
    norm_num
  · rw [Binary.value_eq_zero rfl, Int.cast_zero, zero_mul]

/-! ## Decimals -/

theorem mul_finite {s t : Sign} {e f : ℤ} (hm : 0 < m) (hn : 0 < n) :
    UnpackedFloat.mul .binary64 (.finite s m e hm) (.finite t n f hn) =
      roundWithAccuracy .binary64 (s * t) (m * n) (e + f) .exact := rfl

theorem div_finite {s t : Sign} {e f : ℤ} (hm : 0 < m) (hn : 0 < n) :
    UnpackedFloat.div .binary64 (.finite s m e hm) (.finite t n f hn) =
      let (p, g, a) := divCore .binary64 m e n f
      roundWithAccuracy .binary64 (s / t) p g a := rfl

theorem rounded_unpacked_ofScientific (hm : 0 < m) (e : ℤ) (hlt : m * 10 ^ e < overflow) :
    ∃ b, UnpackedFloat.ofScientific .binary64 m e = unpackedOf b ∧ Rounded (m * 10 ^ e) b := by
  have hm' : (1 : ℚ) ≤ m := Nat.one_le_cast.2 hm
  rw [UnpackedFloat.ofScientific, dif_neg hm.ne']
  split
  · -- So great a power of ten is beyond all doubles.
    have he : (2048 : ℤ) < e := ‹_›
    have hpow : (2 : ℚ) ^ (1024 : ℤ) ≤ 10 ^ e := two_zpow_le_ten_zpow (by omega) (by omega)
    have hle : (10 : ℚ) ^ e ≤ m * 10 ^ e := le_mul_of_one_le_left (by positivity) hm'
    exact absurd (hlt.trans overflow_lt) (not_lt.2 (hpow.trans hle))
  split
  · have he : e < -((2048 : ℤ) + m.log2) := ‹_›
    refine ⟨⟨false, 0, -1074⟩, rfl, rounded_of_tiny (by positivity) ?_⟩
    have hself : (m : ℚ) < 2 ^ ((m.log2 : ℤ) + 1) := by exact_mod_cast Nat.lt_log2_self
    have hpow : (10 : ℚ) ^ e ≤ 2 ^ e := ten_zpow_le_two_zpow (by omega) (by omega)
    calc (m : ℚ) * 10 ^ e ≤ m * 2 ^ e := mul_le_mul_of_nonneg_left hpow (by positivity)
      _ < 2 ^ ((m.log2 : ℤ) + 1) * 2 ^ e := mul_lt_mul_of_pos_right hself (by positivity)
      _ = 2 ^ ((m.log2 : ℤ) + 1 + e) := (zpow_add₀ two_ne_zero _ _).symm
      _ ≤ 2 ^ (-1075 : ℤ) := zpow_le_zpow_right₀ one_le_two (by omega)
  split
  · obtain ⟨k, rfl⟩ := Int.eq_ofNat_of_zero_le ‹0 ≤ e›
    have hvalue : ((m * 2 ^ 53 : ℕ) : ℚ) * 2 ^ (-53 : ℤ) * ((10 ^ k : ℕ) * 2 ^ (0 : ℤ)) =
        m * 10 ^ (k : ℤ) := by
      have hunit : (2 : ℚ) ^ 53 ≠ 0 := by positivity
      rw [zpow_neg, zpow_ofNat, zpow_zero, mul_one, zpow_natCast, Nat.cast_mul, Nat.cast_pow,
        Nat.cast_ofNat, mul_inv_cancel_right₀ hunit, Nat.cast_pow, Nat.cast_ofNat]
    have hdigits : 2 ^ 52 ≤ m * 2 ^ 53 * 10 ^ k := by
      calc 2 ^ 52 ≤ 2 ^ 53 := by norm_num
        _ ≤ m * 2 ^ 53 := Nat.le_mul_of_pos_left _ hm
        _ ≤ m * 2 ^ 53 * 10 ^ k := Nat.le_mul_of_pos_right _ (by positivity)
    have hbits : Format.binary64.mantissaBits = 53 := rfl
    rw [← hvalue] at hlt ⊢
    rw [mul_finite, hbits, Nat.shiftLeft_eq, Int.toNat_natCast]
    exact rounded_mul_digits (by positivity) (by positivity) (.inl hdigits) hlt false
  · obtain ⟨k, hk⟩ := Int.eq_ofNat_of_zero_le (by omega : 0 ≤ -e)
    obtain rfl : e = -k := by omega
    have hvalue : (m : ℚ) * 2 ^ (0 : ℤ) / ((10 ^ k : ℕ) * 2 ^ (0 : ℤ)) = m * 10 ^ (-k : ℤ) := by
      rw [zpow_zero, mul_one, mul_one, zpow_neg, zpow_natCast, Nat.cast_pow, Nat.cast_ofNat,
        div_eq_mul_inv]
    rw [← hvalue] at hlt ⊢
    rw [div_finite]
    simp only [neg_neg, Int.toNat_natCast]
    exact rounded_div_digits hm (by positivity) hlt false

/-! ## Numbers and powers of ten that are doubles -/

/-- The powers of ten in the table are exact. -/
theorem exists_power (i : Fin 23) : ∃ c ∈ Binary.ofFloat? Float.exactlyRepresentablePowersOfTen[i],
    c.negative = false ∧ c.mantissa ≠ 0 ∧
      c.mantissa * 2 ^ c.exponent.toNat = 10 ^ i.val * 2 ^ (-c.exponent).toNat := by
  revert i
  decide +kernel

theorem ofFloat?_power (i : Fin 23) : ∃ c,
    Binary.ofFloat? Float.exactlyRepresentablePowersOfTen[i] = some c ∧ c.mantissa ≠ 0 ∧
      c.value = 10 ^ i.val := by
  obtain ⟨c, hc, hsign, h0, heq⟩ := exists_power i
  refine ⟨c, hc, h0, ?_⟩
  have hunit : (0 : ℚ) < 2 ^ (-c.exponent).toNat := by positivity
  have heq' : (c.mantissa : ℚ) * 2 ^ c.exponent.toNat = 10 ^ i.val * 2 ^ (-c.exponent).toNat := by
    exact_mod_cast heq
  have hexponent : (2 : ℚ) ^ c.exponent * 2 ^ (-c.exponent).toNat = 2 ^ c.exponent.toNat := by
    rw [← zpow_natCast, ← zpow_natCast, ← zpow_add₀ two_ne_zero]
    congr 1
    omega
  rw [c.value_eq_signedBy, hsign, ← mul_left_inj' hunit.ne', ← heq', ← hexponent, ← mul_assoc]
  rfl

/-- A number of at most 53 digits is a double. -/
theorem ofFloat?_toFloat (h0 : 0 < m) (h : m < 2 ^ 53) :
    ∃ b, Binary.ofFloat? m.toUInt64.toFloat = some b ∧ b.value = m := by
  have hm : m.toUInt64.toNat = m := by
    rw [Nat.toUInt64, UInt64.toNat_ofNat']
    exact Nat.mod_eq_of_lt (h.trans (by norm_num))
  have hpos : (0 : ℚ) < m := Nat.cast_pos.2 h0
  have hone : (m : ℚ) * 2 ^ (0 : ℤ) = m := by rw [zpow_zero, mul_one]
  have hlt : (m : ℚ) < 2 ^ ((0 : ℤ) + 53) := by exact_mod_cast h
  have hoverflow : (2 : ℚ) ^ ((0 : ℤ) + 53) ≤ overflow := two_zpow_le_overflow (by norm_num)
  obtain ⟨b, hb, hrounded⟩ := rounded_round h0 (hone.symm ▸ hlt.trans_le hoverflow) false
  have hunpack := unpack_ofUInt64 (n := m.toUInt64) (by omega)
  rw [hm] at hunpack
  refine ⟨b, ?_, ?_⟩
  · rw [ofFloat?_eq]
    show binaryOf? (Float.Model.ofUInt64 m.toUInt64).unpack = some b
    rw [hunpack, ← binaryOf?_unpackedOf hrounded.canonical]
    exact congrArg binaryOf? hb
  · have hsigned : signedBy false (m * 2 ^ (0 : ℤ)) = m := hone
    rw [hsigned] at hrounded
    have hgrid : gridExponent m ≤ 0 :=
      (gridExponent_le_iff hpos.ne').2 ⟨(abs_of_pos hpos).trans_lt hlt, by norm_num⟩
    obtain ⟨j, hj⟩ := exists_mul_zpow_eq hgrid m
    rw [Int.cast_natCast, hone] at hj
    exact hrounded.value_eq hj

/-! ## Numbers with a power of ten -/

/-- The exponent of ten that a number in scientific form has. -/
def signedExponent (down : Bool) (k : ℕ) : ℤ := if down then -k else k

/-- **A decimal** becomes the double nearest to it. -/
theorem rounded_ofScientific (hm : 0 < m) (down : Bool) (k : ℕ)
    (hlt : m * 10 ^ signedExponent down k < overflow) :
    ∃ b, Binary.ofFloat? (Float.ofScientific m down k) = some b ∧
      Rounded (m * 10 ^ signedExponent down k) b := by
  rw [Float.ofScientific]
  split
  · obtain ⟨hm', hk⟩ := ‹m < 2 ^ 53 ∧ k ≤ 22›
    obtain ⟨b, hb, hvalue⟩ := ofFloat?_toFloat hm hm'
    obtain ⟨c, hc, hc0, hpower⟩ := ofFloat?_power ⟨k, by omega⟩
    have hpos : (0 : ℚ) < m := Nat.cast_pos.2 hm
    cases down with
    | true =>
      have heq : b.value / c.value = m * 10 ^ signedExponent true k := by
        rw [hvalue, hpower, signedExponent, if_pos rfl, zpow_neg, zpow_natCast, div_eq_mul_inv]
      rw [← heq] at hlt ⊢
      exact rounded_div hb hc hc0 (by rwa [abs_of_pos (heq ▸ by positivity)])
    | false =>
      have heq : b.value * c.value = m * 10 ^ signedExponent false k := by
        rw [hvalue, hpower, signedExponent, if_neg Bool.false_ne_true, zpow_natCast]
      rw [← heq] at hlt ⊢
      exact rounded_mul hb hc (by rwa [abs_of_pos (heq ▸ by positivity)])
  · have hexponent : (if down then Int.negOfNat k else Int.ofNat k) = signedExponent down k := by
      cases down
      · rfl
      · exact Int.negOfNat_eq
    obtain ⟨b, hb, hrounded⟩ := rounded_unpacked_ofScientific hm _ hlt
    rw [← hexponent] at hb
    exact ⟨b, ofFloat?_ofModel hb hrounded.canonical, hrounded⟩

/-! ## Digits -/

theorem length_digits (n : ℕ) : (digits n).length = Nat.log 10 n + 1 := by
  induction n using digits.induct with
  | case1 n h => rw [digits, if_pos h, Nat.log_of_lt h, List.length_singleton]
  | case2 n h ih =>
    rw [digits, if_neg h, List.length_append, ih, List.length_singleton,
      Nat.log_of_one_lt_of_le (by norm_num) (not_lt.1 h)]

/-- The power of ten of the first digit. -/
theorem log_mul_zpow (hm : 0 < m) (e : ℤ) : Int.log 10 (m * 10 ^ e : ℚ) = Nat.log 10 m + e := by
  have hpos : (0 : ℚ) < m * 10 ^ e := by positivity
  have hlow : (10 ^ Nat.log 10 m : ℚ) ≤ m := by exact_mod_cast Nat.pow_log_le_self 10 hm.ne'
  have hhigh : (m : ℚ) < 10 ^ (Nat.log 10 m + 1) := by
    exact_mod_cast Nat.lt_pow_succ_log_self (by norm_num : 1 < 10) m
  refine le_antisymm (Int.lt_add_one_iff.1 ?_) ?_
  · rw [← Int.lt_zpow_iff_log_lt (by norm_num) hpos, Nat.cast_ofNat]
    calc (m : ℚ) * 10 ^ e < 10 ^ (Nat.log 10 m + 1) * 10 ^ e :=
          mul_lt_mul_of_pos_right hhigh (by positivity)
      _ = 10 ^ (Nat.log 10 m + e + 1) := by
        rw [← zpow_natCast, ← zpow_add₀ (by norm_num)]
        congr 1
        push_cast
        ring
  · rw [← Int.zpow_le_iff_le_log (by norm_num) hpos, Nat.cast_ofNat, zpow_add₀ (by norm_num),
      zpow_natCast]
    exact mul_le_mul_of_nonneg_right hlow (by positivity)

/-- **`scaledFloat`** is the double nearest to a decimal. -/
theorem rounded_scaledFloat (hm : 0 < m) (e : ℤ) (hlt : m * 10 ^ e < overflow) :
    ∃ b, Binary.ofFloat? (scaledFloat m e) = some b ∧ Rounded (m * 10 ^ e) b := by
  have hpos : (0 : ℚ) < m * 10 ^ e := by positivity
  have hlog := log_mul_zpow hm e
  rw [scaledFloat, length_digits, if_neg hm.ne']
  split
  · have hle : (310 : ℤ) ≤ Int.log 10 (m * 10 ^ e : ℚ) := by omega
    rw [← Int.zpow_le_iff_le_log (by norm_num) hpos, Nat.cast_ofNat] at hle
    have hpow : (2 : ℚ) ^ (1024 : ℤ) ≤ 10 ^ (310 : ℤ) :=
      two_zpow_le_ten_zpow (by norm_num) (by norm_num)
    exact absurd (hlt.trans overflow_lt) (not_lt.2 (hpow.trans hle))
  split
  · have hlt' : Int.log 10 (m * 10 ^ e : ℚ) < -331 := by omega
    rw [← Int.lt_zpow_iff_log_lt (by norm_num) hpos, Nat.cast_ofNat] at hlt'
    have hpow : (10 : ℚ) ^ (-331 : ℤ) ≤ 2 ^ (-1075 : ℤ) :=
      ten_zpow_le_two_zpow (by norm_num) (by norm_num)
    exact ⟨⟨false, 0, -1074⟩, rfl, rounded_of_tiny hpos (hlt'.trans_le hpow)⟩
  split
  · have he : signedExponent true e.natAbs = e := by
      rw [signedExponent, if_pos rfl]
      omega
    have h := rounded_ofScientific hm true e.natAbs
    rw [he] at h
    exact h hlt
  · have he : signedExponent false e.natAbs = e := by
      rw [signedExponent, if_neg Bool.false_ne_true]
      omega
    have h := rounded_ofScientific hm false e.natAbs
    rw [he] at h
    exact h hlt

end Assessment.Numeric
