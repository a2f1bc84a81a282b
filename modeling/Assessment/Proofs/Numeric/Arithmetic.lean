import Assessment.Proofs.Numeric.Rounded

/-!
# Sums, products and quotients of doubles

Each is the double nearest to the exact result, unless that is too great for a double. The digits
of the exact result, or of a quotient as many as are enough, are at hand before they are rounded.

The operations are those of doubles as the processor uses them, taken apart through their unpacked
form. They are the base of everything that is said of a result next to an exact one.

* `rounded_value`: a double is nearest to its own value.
* `rounded_add`, `rounded_mul`, `rounded_div`: the three operations.
-/

namespace Assessment.Numeric

open Decimal Float.Model Float.Model.UnpackedFloat

variable {x y : Float} {b c : Binary} {q : ℚ} {m n : ℕ} {e f : ℤ}

/-! ## Values of doubles -/

theorem canonical_zero (negative : Bool) : Binary.Canonical ⟨negative, 0, -1074⟩ :=
  ⟨Nat.two_pow_pos 53, le_rfl, by norm_num, .inr rfl⟩

theorem rounded_zero (hb : b.Canonical) (h0 : b.mantissa = 0) : Rounded 0 b := by
  refine ⟨hb, 0, ?_, ?_, fun _ => by rw [h0]; exact Even.zero⟩
  · rw [zero_div]
    exact_mod_cast NearestInt.intCast 0
  · rw [Binary.value_eq_zero h0, Int.cast_zero, zero_mul]

/-- Near a double other than zero the doubles have its exponent. -/
theorem gridExponent_value (hb : b.Canonical) (h0 : b.mantissa ≠ 0) :
    gridExponent b.value = b.exponent := by
  have hunit : (0 : ℚ) < 2 ^ b.exponent := by positivity
  have hpos : (0 : ℚ) < b.mantissa := Nat.cast_pos.2 (Nat.pos_of_ne_zero h0)
  have hne : b.value ≠ 0 := by
    rw [← abs_pos, b.abs_value]
    positivity
  refine le_antisymm ((gridExponent_le_iff hne).2 ⟨?_, hb.least_le⟩) (not_lt.1 fun hlt => ?_)
  · exact hb.abs_value_lt
  · have hbelow := (gridExponent_le_iff hne).1 (Int.le_sub_one_of_lt hlt)
    have hleading := hb.le_abs_value (by omega)
    have hexp : b.exponent - 1 + 53 = b.exponent + 52 := by ring
    exact absurd (hexp ▸ hbelow.1) (not_lt.2 hleading)

/-- A double is nearest to its own value. -/
theorem rounded_value (hb : b.Canonical) : Rounded b.value b := by
  by_cases h0 : b.mantissa = 0
  · rw [Binary.value_eq_zero h0]
    exact rounded_zero hb h0
  · have hunit : (0 : ℚ) < 2 ^ b.exponent := by positivity
    refine ⟨hb, b.signed, ?_, ?_, fun h => ?_⟩
    · rw [gridExponent_value hb h0, Binary.value, mul_div_cancel_right₀ _ hunit.ne']
      exact NearestInt.intCast _
    · rw [gridExponent_value hb h0, Binary.value]
    · rw [← Int.natAbs_even, Binary.signed] at h
      split at h <;> simpa using h

/-! ## Sums -/

/-- An integer times a power of two is rounded with as many zeros after it as are needed. -/
theorem rounded_round (hm : 0 < m) (hlt : m * 2 ^ e < overflow) (negative : Bool) :
    ∃ b, UnpackedFloat.round .binary64 (toSign negative) m e = unpackedOf b ∧
      Rounded (signedBy negative (m * 2 ^ e)) b := by
  obtain ⟨k, hk⟩ : ∃ k, (e - max (m.log2 + e - 52) (-1074)).toNat = k := ⟨_, rfl⟩
  have hvalue : ((m * 2 ^ k : ℕ) : ℚ) * 2 ^ (e - k) = m * 2 ^ e := by
    rw [Nat.cast_mul, Nat.cast_pow, Nat.cast_ofNat, ← zpow_natCast, mul_assoc,
      ← zpow_add₀ two_ne_zero, add_sub_cancel]
  have henough : 2 ^ 52 ≤ m * 2 ^ k ∨ e - k ≤ -1074 := by
    rcases le_or_gt (m.log2 + e - 52) (-1074) with hle | hgt
    · exact .inr (by omega)
    · refine .inl ?_
      calc 2 ^ 52 ≤ 2 ^ (m.log2 + k) := Nat.pow_le_pow_right two_pos (by omega)
        _ = 2 ^ m.log2 * 2 ^ k := pow_add ..
        _ ≤ m * 2 ^ k := Nat.mul_le_mul_right _ (Nat.log2_self_le hm.ne')
  have hpos : (0 : ℚ) < (m * 2 ^ k : ℕ) := by
    have : 0 < m * 2 ^ k := by positivity
    exact_mod_cast this
  rw [UnpackedFloat.round, decreaseExponent, targetExponent_eq, hk]
  dsimp only
  rw [Nat.shiftLeft_eq, ← hvalue]
  exact rounded_roundWithAccuracy (represents_exact _) hpos henough (hvalue ▸ hlt) negative

theorem rounded_normalize (k : ℤ) (hlt : |(k : ℚ) * 2 ^ e| < overflow) (s : Sign) :
    ∃ b, UnpackedFloat.normalize .binary64 k e s = unpackedOf b ∧ Rounded (k * 2 ^ e) b := by
  have hunit : (0 : ℚ) < 2 ^ e := by positivity
  rw [abs_mul, abs_of_pos hunit] at hlt
  rw [UnpackedFloat.normalize]
  split
  · have hneg : k < 0 := Int.compare_eq_lt.1 ‹_›
    obtain ⟨m, hm⟩ := Int.eq_ofNat_of_zero_le (Int.neg_nonneg_of_nonpos hneg.le)
    have hkm : (k : ℚ) = -m := by
      have : k = -(m : ℤ) := by omega
      rw [this]
      push_cast
      rfl
    rw [hkm, abs_neg, Nat.abs_cast] at hlt
    rw [hm, hkm, neg_mul]
    exact rounded_round (by omega) hlt true
  · have hzero : k = 0 := Int.compare_eq_eq.1 ‹_›
    refine ⟨⟨s == .negative, 0, -1074⟩, ?_, ?_⟩
    · cases s <;> rfl
    · rw [hzero, Int.cast_zero, zero_mul]
      exact rounded_zero (canonical_zero _) rfl
  · have hpos : 0 < k := Int.compare_eq_gt.1 ‹_›
    obtain ⟨m, rfl⟩ := Int.eq_ofNat_of_zero_le hpos.le
    rw [Int.cast_natCast] at hlt ⊢
    rw [Nat.abs_cast] at hlt
    exact rounded_round (by omega) hlt false

/-- Digits that are moved to a lesser exponent have the same value. -/
theorem apply_decreaseExponent (negative : Bool) (m : ℕ) (h : f ≤ e) :
    ((toSign negative).apply ((decreaseExponent m e f).1 : ℕ) : ℚ) * 2 ^ f =
      signedBy negative (m * 2 ^ e) := by
  have hvalue : ((m <<< (e - f).toNat : ℕ) : ℚ) * 2 ^ f = m * 2 ^ e := by
    rw [Nat.shiftLeft_eq, Nat.cast_mul, Nat.cast_pow, Nat.cast_ofNat, ← zpow_natCast,
      Int.toNat_of_nonneg (by omega), mul_assoc, ← zpow_add₀ two_ne_zero, sub_add_cancel]
  rw [decreaseExponent]
  cases negative with
  | false => exact hvalue
  | true =>
    show ((-(m <<< (e - f).toNat : ℕ) : ℤ) : ℚ) * 2 ^ f = -(m * 2 ^ e)
    rw [Int.cast_neg, Int.cast_natCast, neg_mul, hvalue]

theorem rounded_unpacked_add (hb : b.Canonical) (hc : c.Canonical)
    (hlt : |b.value + c.value| < overflow) :
    ∃ d, UnpackedFloat.add .binary64 (unpackedOf b) (unpackedOf c) = unpackedOf d ∧
      Rounded (b.value + c.value) d := by
  by_cases hb0 : b.mantissa = 0
  · rw [Binary.value_eq_zero hb0, zero_add]
    by_cases hc0 : c.mantissa = 0
    · refine ⟨⟨b.negative && c.negative, 0, -1074⟩, ?_, ?_⟩
      · rw [unpackedOf, dif_pos hb0, unpackedOf, dif_pos hc0, unpackedOf, dif_pos rfl]
        cases b.negative <;> cases c.negative <;> rfl
      · rw [Binary.value_eq_zero hc0]
        exact rounded_zero (canonical_zero _) rfl
    · refine ⟨c, ?_, rounded_value hc⟩
      rw [unpackedOf, dif_pos hb0, unpackedOf, dif_neg hc0]
      rfl
  · by_cases hc0 : c.mantissa = 0
    · rw [Binary.value_eq_zero hc0, add_zero]
      refine ⟨b, ?_, rounded_value hb⟩
      rw [unpackedOf, dif_neg hb0, unpackedOf, dif_pos hc0]
      rfl
    · rw [unpackedOf, dif_neg hb0, unpackedOf, dif_neg hc0]
      have hb' := apply_decreaseExponent b.negative b.mantissa
        (min_le_left b.exponent c.exponent)
      have hc' := apply_decreaseExponent c.negative c.mantissa
        (min_le_right b.exponent c.exponent)
      rw [← b.value_eq_signedBy] at hb'
      rw [← c.value_eq_signedBy] at hc'
      rw [← hb', ← hc', ← add_mul, ← Int.cast_add] at hlt ⊢
      exact rounded_normalize _ hlt .positive

/-- A double with given parts, when an operation has computed them. -/
theorem ofFloat?_ofModel {u : UnpackedFloat} (hu : u = unpackedOf b) (hb : b.Canonical) :
    Binary.ofFloat? (.ofModel (Float.Model.pack u)) = some b := by
  rw [hu, ofFloat?_pack hb]

/-- **A sum** is the double nearest to the exact sum. -/
theorem rounded_add (hx : Binary.ofFloat? x = some b) (hy : Binary.ofFloat? y = some c)
    (hlt : |b.value + c.value| < overflow) :
    ∃ d, Binary.ofFloat? (x + y) = some d ∧ Rounded (b.value + c.value) d := by
  obtain ⟨d, hd, hrounded⟩ :=
    rounded_unpacked_add (canonical_of_ofFloat? hx) (canonical_of_ofFloat? hy) hlt
  rw [← unpack_eq hx, ← unpack_eq hy] at hd
  exact ⟨d, ofFloat?_ofModel hd hrounded.canonical, hrounded⟩

/-! ## Products -/

theorem signedBy_mul (s t : Bool) (q r : ℚ) :
    signedBy s q * signedBy t r = signedBy (s != t) (q * r) := by
  cases s <;> cases t <;> simp [signedBy]

theorem toSign_mul (s t : Bool) : toSign s * toSign t = toSign (s != t) := by
  cases s <;> cases t <;> rfl

theorem toSign_div (s t : Bool) : toSign s / toSign t = toSign (s != t) := by
  cases s <;> cases t <;> rfl

/-- The digits of a product are multiplied, and the exponents added. -/
theorem rounded_mul_digits (hm : 0 < m) (hn : 0 < n) (henough : 2 ^ 52 ≤ m * n ∨ e + f ≤ -1074)
    (hlt : m * 2 ^ e * (n * 2 ^ f) < overflow) (negative : Bool) :
    ∃ d, roundWithAccuracy .binary64 (toSign negative) (m * n) (e + f) .exact = unpackedOf d ∧
      Rounded (signedBy negative (m * 2 ^ e * (n * 2 ^ f))) d := by
  have hpos : (0 : ℚ) < (m * n : ℕ) := by
    have : 0 < m * n := by positivity
    exact_mod_cast this
  have hvalue : ((m * n : ℕ) : ℚ) * 2 ^ (e + f) = m * 2 ^ e * (n * 2 ^ f) := by
    rw [Nat.cast_mul, zpow_add₀ two_ne_zero, mul_mul_mul_comm]
  rw [← hvalue] at hlt ⊢
  exact rounded_roundWithAccuracy (represents_exact _) hpos henough hlt negative

/-- The digits of two doubles are enough for their product. -/
theorem digits_mul (hb : b.Canonical) (hc : c.Canonical) (hb0 : 0 < b.mantissa)
    (hc0 : 0 < c.mantissa) :
    2 ^ 52 ≤ b.mantissa * c.mantissa ∨ b.exponent + c.exponent ≤ -1074 := by
  rcases hb.leading with h | h
  · exact .inl (h.trans (Nat.le_mul_of_pos_right _ hc0))
  · rcases hc.leading with h' | h'
    · exact .inl (h'.trans (Nat.le_mul_of_pos_left _ hb0))
    · exact .inr (by omega)

theorem rounded_unpacked_mul (hb : b.Canonical) (hc : c.Canonical)
    (hlt : |b.value * c.value| < overflow) :
    ∃ d, UnpackedFloat.mul .binary64 (unpackedOf b) (unpackedOf c) = unpackedOf d ∧
      Rounded (b.value * c.value) d := by
  by_cases h0 : b.mantissa = 0 ∨ c.mantissa = 0
  · have hzero : b.value * c.value = 0 := by
      rcases h0 with h | h <;> simp [Binary.value_eq_zero h]
    rw [hzero]
    refine ⟨⟨b.negative != c.negative, 0, -1074⟩, ?_, rounded_zero (canonical_zero _) rfl⟩
    rw [unpackedOf, unpackedOf, unpackedOf, dif_pos rfl, ← toSign_mul]
    split <;> split <;> first | rfl | omega
  · obtain ⟨hb0, hc0⟩ := not_or.1 h0
    have hb0 := Nat.pos_of_ne_zero hb0
    have hc0 := Nat.pos_of_ne_zero hc0
    rw [abs_mul, b.abs_value, c.abs_value] at hlt
    rw [b.value_eq_signedBy, c.value_eq_signedBy, signedBy_mul, unpackedOf, dif_neg hb0.ne',
      unpackedOf, dif_neg hc0.ne']
    have h := rounded_mul_digits hb0 hc0 (digits_mul hb hc hb0 hc0) hlt (b.negative != c.negative)
    rwa [← toSign_mul] at h

/-- **A product** is the double nearest to the exact product. -/
theorem rounded_mul (hx : Binary.ofFloat? x = some b) (hy : Binary.ofFloat? y = some c)
    (hlt : |b.value * c.value| < overflow) :
    ∃ d, Binary.ofFloat? (x * y) = some d ∧ Rounded (b.value * c.value) d := by
  obtain ⟨d, hd, hrounded⟩ :=
    rounded_unpacked_mul (canonical_of_ofFloat? hx) (canonical_of_ofFloat? hy) hlt
  rw [← unpack_eq hx, ← unpack_eq hy] at hd
  exact ⟨d, ofFloat?_ofModel hd hrounded.canonical, hrounded⟩

/-! ## Quotients -/

/-- A quotient has 53 digits when its dividend has as many more than its divisor. -/
theorem le_div_of_log2_le {k : ℕ} (hm : 0 < m) (hn : 0 < n) (h : n.log2 + 53 ≤ m.log2 + k) :
    2 ^ 52 ≤ m * 2 ^ k / n := by
  rw [Nat.le_div_iff_mul_le hn]
  calc 2 ^ 52 * n ≤ 2 ^ 52 * 2 ^ (n.log2 + 1) := Nat.mul_le_mul_left _ Nat.lt_log2_self.le
    _ = 2 ^ (n.log2 + 53) := by rw [← pow_add]; congr 1; omega
    _ ≤ 2 ^ (m.log2 + k) := Nat.pow_le_pow_right two_pos h
    _ = 2 ^ m.log2 * 2 ^ k := pow_add ..
    _ ≤ m * 2 ^ k := Nat.mul_le_mul_right _ (Nat.log2_self_le hm.ne')

/-- The digits of a quotient, as many as are enough, and its rest. -/
theorem rounded_div_digits (hm : 0 < m) (hn : 0 < n)
    (hlt : m * 2 ^ e / (n * 2 ^ f) < overflow) (negative : Bool) :
    let (p, g, a) := divCore .binary64 m e n f
    ∃ d, roundWithAccuracy .binary64 (toSign negative) p g a = unpackedOf d ∧
      Rounded (signedBy negative (m * 2 ^ e / (n * 2 ^ f))) d := by
  rw [divCore]
  generalize hg : min (e - f) (Format.binary64.targetExponent
    (totalExponent m e - totalExponent n f)) = g
  obtain ⟨k, hk⟩ : ∃ k : ℕ, e - f - g = k := Int.eq_ofNat_of_zero_le (by omega)
  have henough : 2 ^ 52 ≤ m * 2 ^ k / n ∨ g ≤ -1074 := by
    simp only [Format.targetExponent, totalExponent, Format.mantissaBits, Format.minExponent] at hg
    norm_num at hg
    by_cases hlow : g ≤ -1074
    · exact .inr hlow
    · exact .inl (le_div_of_log2_le hm hn (by omega))
  have hn' : (0 : ℚ) < n := Nat.cast_pos.2 hn
  have hm' : (0 : ℚ) < m := Nat.cast_pos.2 hm
  have hquotient : ((m * 2 ^ k / n : ℕ) : ℚ) + (m * 2 ^ k % n : ℕ) / n = m * 2 ^ k / n := by
    rw [← mul_left_inj' hn'.ne', add_mul, div_mul_cancel₀ _ hn'.ne', div_mul_cancel₀ _ hn'.ne']
    exact_mod_cast Nat.div_add_mod' (m * 2 ^ k) n
  have hvalue : m * 2 ^ k / n * 2 ^ g = m * 2 ^ e / (n * 2 ^ f : ℚ) := by
    have he : e = f + g + k := by omega
    rw [he, zpow_add₀ two_ne_zero, zpow_add₀ two_ne_zero, zpow_natCast]
    field_simp
  have hrest := represents_accuracyOfFraction (m * 2 ^ k / n) (Nat.mod_lt (m * 2 ^ k) hn)
  rw [hquotient] at hrest
  rw [← hvalue] at hlt ⊢
  dsimp only
  rw [hk, Int.toNat_natCast, Nat.shiftLeft_eq]
  exact rounded_roundWithAccuracy hrest (by positivity) henough hlt negative

theorem rounded_unpacked_div (hc0 : c.mantissa ≠ 0)
    (hlt : |b.value / c.value| < overflow) :
    ∃ d, UnpackedFloat.div .binary64 (unpackedOf b) (unpackedOf c) = unpackedOf d ∧
      Rounded (b.value / c.value) d := by
  by_cases hb0 : b.mantissa = 0
  · rw [Binary.value_eq_zero hb0, zero_div]
    refine ⟨⟨b.negative != c.negative, 0, -1074⟩, ?_, rounded_zero (canonical_zero _) rfl⟩
    rw [unpackedOf, dif_pos hb0, unpackedOf, dif_neg hc0, unpackedOf, dif_pos rfl, ← toSign_div]
    rfl
  · rw [abs_div, b.abs_value, c.abs_value] at hlt
    have hsign : b.value / c.value = signedBy (b.negative != c.negative)
        (b.mantissa * 2 ^ b.exponent / (c.mantissa * 2 ^ c.exponent)) := by
      rw [b.value_eq_signedBy, c.value_eq_signedBy]
      cases b.negative <;> cases c.negative <;> simp [signedBy, neg_div, div_neg]
    have h := rounded_div_digits (Nat.pos_of_ne_zero hb0) (Nat.pos_of_ne_zero hc0) hlt
      (b.negative != c.negative)
    rw [hsign, unpackedOf, dif_neg hb0, unpackedOf, dif_neg hc0]
    rwa [← toSign_div] at h

/-- **A quotient** is the double nearest to the exact quotient. -/
theorem rounded_div (hx : Binary.ofFloat? x = some b) (hy : Binary.ofFloat? y = some c)
    (hc0 : c.mantissa ≠ 0) (hlt : |b.value / c.value| < overflow) :
    ∃ d, Binary.ofFloat? (x / y) = some d ∧ Rounded (b.value / c.value) d := by
  obtain ⟨d, hd, hrounded⟩ := rounded_unpacked_div (b := b) hc0 hlt
  rw [← unpack_eq hx, ← unpack_eq hy] at hd
  exact ⟨d, ofFloat?_ofModel hd hrounded.canonical, hrounded⟩

end Assessment.Numeric
