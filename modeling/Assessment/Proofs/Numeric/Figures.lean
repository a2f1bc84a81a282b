import Assessment.Proofs.Numeric.Shortest

/-!
# Rounding to figures

A double is rounded to places or to significant figures through its shortest decimal, which is held
in 96 bits with at most 28 places. Cut digits are rounded exactly, ties to the even neighbour, and
the double nearest to what is left is the result. But further places than 28 are gone by then, the
next digit rounded up from five on, and figures are only counted after that.

The code is the part of `round_to` that works on a decimal: the text of the double is read into the
decimal (`from_str`), and the decimal is rounded to places (`round_dp`) or to figures (`round_sf`),
as their library documents them.

* `roundedAt`: a number rounded exactly; `RoundingMode.exact`: in a mode.
* `Scaled.value_roundPlaces`, `Scaled.exists_roundFigures?`: cut digits are rounded exactly.
* `Scaled.exists_ofScientific?`: what is held of a decimal.
* `rounded_decimal`: the shortest decimal is read as the double.
* `roundTo!_of_held`: the double nearest to the number that is held, rounded exactly.
* `roundTo!_of_not_held`: where no decimal is held, the double is scaled.
-/

namespace Assessment

open Text

/-! ## Rounding exactly -/

/-- The integer nearest to a number, the even one of two. -/
def halfEven (q : ℚ) : ℤ := Decimal.nearestEven q.num q.den

/-- The multiple of `10 ^ (-places)` nearest to a number, ties to even. -/
def roundedAt (places : ℤ) (q : ℚ) : ℚ := halfEven (q * 10 ^ places) * 10 ^ (-places)

variable {q : ℚ} {n : ℤ}

theorem nearestInt_halfEven (q : ℚ) : NearestInt q (halfEven q) := by
  have h := Decimal.nearestInt_nearestEven q.num (d := q.den) (by exact_mod_cast q.den_pos)
  rwa [Int.cast_natCast, Rat.num_div_den] at h

theorem halfEven_eq (h : NearestInt q n) : halfEven q = n := (nearestInt_halfEven q).unique h

theorem halfEven_neg (q : ℚ) : halfEven (-q) = -halfEven q := halfEven_eq (nearestInt_halfEven q).neg

theorem roundedAt_signedBy (negative : Bool) (places : ℤ) (q : ℚ) :
    roundedAt places (signedBy negative q) = signedBy negative (roundedAt places q) := by
  cases negative with
  | false => rfl
  | true =>
    simp only [signedBy, if_true, roundedAt]
    rw [neg_mul, halfEven_neg, Int.cast_neg, neg_mul]

/-- A multiple is kept. -/
theorem roundedAt_of_eq {places : ℤ} (h : q * 10 ^ places = n) : roundedAt places q = q := by
  have hten : (10 : ℚ) ^ places ≠ 0 := by positivity
  rw [roundedAt, h, halfEven_eq (.intCast n), ← h, zpow_neg, mul_inv_cancel_right₀ hten]

/-- From the point on a place is at most half a unit from the number. -/
theorem abs_roundedAt_sub_le {places : ℤ} (h : 0 ≤ places) (q : ℚ) :
    |roundedAt places q - q| ≤ 1 / 2 := by
  have hten : (0 : ℚ) < 10 ^ places := by positivity
  have hone : (1 : ℚ) ≤ 10 ^ places := one_le_zpow₀ (by norm_num) h
  have hsub : roundedAt places q - q =
      (halfEven (q * 10 ^ places) - q * 10 ^ places) / 10 ^ places := by
    rw [roundedAt, zpow_neg, sub_div, mul_div_cancel_right₀ _ hten.ne', div_eq_mul_inv]
  rw [hsub, abs_div, abs_of_pos hten, div_le_iff₀ hten]
  linarith [(nearestInt_halfEven (q * 10 ^ places)).close]

namespace Decimal

/-! ## Values of decimals -/

/-- The number that a decimal of 96 bits writes. -/
def Scaled.value (d : Scaled) : ℚ := signedBy d.negative (d.coefficient * 10 ^ (-d.scale : ℤ))

/-- A magnitude at 28 decimal places, halves up. -/
def heldMagnitude (q : ℚ) : ℚ := ⌊q * 10 ^ 28 + 1 / 2⌋ * 10 ^ (-28 : ℤ)

theorem heldMagnitude_of_eq (h : q * 10 ^ 28 = n) : heldMagnitude q = q := by
  have hten : (10 : ℚ) ^ 28 ≠ 0 := by positivity
  have hfloor : ⌊(n : ℚ) + 1 / 2⌋ = n := by
    rw [Int.floor_intCast_add]
    norm_num
  rw [heldMagnitude, h, hfloor, ← h, zpow_neg]
  exact mul_inv_cancel_right₀ hten q

theorem heldMagnitude_mem (h : 0 ≤ q) : 0 ≤ heldMagnitude q ∧ heldMagnitude q ≤ q + 1 / 2 := by
  have hten : (0 : ℚ) < 10 ^ 28 := by positivity
  have hfloor := Int.floor_le (q * 10 ^ 28 + 1 / 2)
  have hnonneg : 0 ≤ ⌊q * 10 ^ 28 + 1 / 2⌋ := Int.floor_nonneg.2 (by positivity)
  refine ⟨mul_nonneg (by exact_mod_cast hnonneg) (by positivity), ?_⟩
  rw [heldMagnitude, zpow_neg, ← div_eq_mul_inv, div_le_iff₀ (by positivity), add_mul]
  refine hfloor.trans ?_
  have hhalf : (1 / 2 : ℚ) ≤ 1 / 2 * 10 ^ 28 := by norm_num
  exact add_le_add_right hhalf _

/-- At most 28 places are kept. -/
theorem heldMagnitude_value {s : Scientific} (h : -28 ≤ s.exponent) :
    heldMagnitude s.value = s.value := by
  obtain ⟨k, hk⟩ : ∃ k : ℕ, s.exponent + 28 = k := Int.eq_ofNat_of_zero_le (by omega)
  refine heldMagnitude_of_eq (n := s.coefficient * 10 ^ k) ?_
  have hten : (10 : ℚ) ^ 28 = 10 ^ (28 : ℤ) := rfl
  rw [Scientific.value, mul_assoc, hten, ← zpow_add₀ (by norm_num), hk, zpow_natCast]
  push_cast
  rfl

/-! ## Decimals of 96 bits -/

/-- Cut digits are those of the nearest integer. -/
theorem cast_cutDigits (c cut : ℕ) : (Scaled.cutDigits c cut : ℚ) = halfEven (c / 10 ^ cut) := by
  have h := nearestInt_nearestEven c (d := (10 ^ cut : ℕ)) (by positivity)
  push_cast at h
  have hpos : 0 ≤ nearestEven c (10 ^ cut : ℕ) := by
    rw [Nat.cast_pow]
    exact h.ge_of_ge (k := 0) (by positivity)
  rw [halfEven_eq h, Scaled.cutDigits]
  have := Int.toNat_of_nonneg hpos
  exact_mod_cast congrArg (Int.cast (R := ℚ)) this

theorem roundedAt_cut (c scale cut : ℕ) :
    roundedAt (scale - cut) (c * 10 ^ (-scale : ℤ)) =
      Scaled.cutDigits c cut * 10 ^ (cut - scale : ℤ) := by
  have hten : (10 : ℚ) ≠ 0 := by norm_num
  have hdigits : (c : ℚ) * 10 ^ (-scale : ℤ) * 10 ^ (scale - cut : ℤ) = c / 10 ^ cut := by
    rw [mul_assoc, ← zpow_add₀ hten, div_eq_mul_inv, ← zpow_natCast, ← zpow_neg]
    congr 2
    ring
  rw [roundedAt, hdigits, cast_cutDigits, neg_sub]

/-- With as many places as a decimal has nothing is cut. -/
theorem roundedAt_of_scale_le {places : ℤ} {c scale : ℕ} (h : scale ≤ places) :
    roundedAt places (c * 10 ^ (-scale : ℤ)) = c * 10 ^ (-scale : ℤ) := by
  have hten : (10 : ℚ) ≠ 0 := by norm_num
  obtain ⟨k, rfl⟩ : ∃ k : ℕ, places = scale + k := Int.le.dest h |>.imp fun _ => Eq.symm
  refine roundedAt_of_eq (n := c * 10 ^ k) ?_
  rw [mul_assoc, ← zpow_add₀ hten, neg_add_cancel_left, zpow_natCast]
  push_cast
  rfl

namespace Scaled

variable {d : Scaled}

theorem roundedAt_value (places : ℤ) (d : Scaled) : roundedAt places d.value =
    signedBy d.negative (roundedAt places (d.coefficient * 10 ^ (-d.scale : ℤ))) :=
  roundedAt_signedBy ..

theorem value_roundPlaces (d : Scaled) (places : ℕ) :
    (d.roundPlaces places).value = roundedAt places d.value := by
  rw [roundPlaces, roundedAt_value]
  split
  · rw [roundedAt_of_scale_le (by omega), value]
  · have hcut := roundedAt_cut d.coefficient d.scale (d.scale - places)
    have hplaces : (d.scale : ℤ) - (d.scale - places : ℕ) = places := by omega
    rw [← neg_sub (d.scale : ℤ), hplaces] at hcut
    rw [hcut, value]
    dsimp only
    -- A zero loses its sign.
    rcases Nat.eq_zero_or_pos (cutDigits d.coefficient (d.scale - places)) with h | h
    · simp [h, signedBy]
    · rw [bne_iff_ne.2 h.ne', Bool.and_true]

theorem abs_value (d : Scaled) : |d.value| = d.coefficient * 10 ^ (-d.scale : ℤ) := by
  rw [value, abs_signedBy (by positivity)]

/-- Figures are places that count from the first digit. -/
theorem places_eq (h0 : 0 < d.coefficient) (figures : ℕ) :
    (figures : ℤ) - 1 - Int.log 10 |d.value| =
      d.scale - ((digits d.coefficient).length - figures) := by
  rw [d.abs_value, Numeric.log_mul_zpow h0, Numeric.length_digits]
  push_cast
  ring

/-- Cut before the point, an integer is left. -/
theorem roundedAt_cut_of_lt {c scale cut : ℕ} (h : scale < cut) :
    ((cutDigits c cut * Nat.pow 10 (cut - scale) : ℕ) : ℚ) =
      roundedAt (scale - cut) (c * 10 ^ (-scale : ℤ)) := by
  have hexponent : (cut : ℤ) - scale = (cut - scale : ℕ) := by omega
  rw [roundedAt_cut, hexponent, zpow_natCast, Nat.cast_mul]
  congr 1
  exact Nat.cast_pow 10 _

theorem exists_roundFigures? (h0 : 0 < d.coefficient) (figures : ℕ)
    (hlt : |roundedAt (figures - 1 - Int.log 10 |d.value|) d.value| < 2 ^ 96) :
    ∃ r, d.roundFigures? figures = some r ∧
      r.value = roundedAt (figures - 1 - Int.log 10 |d.value|) d.value := by
  rw [places_eq h0, roundedAt_value] at hlt ⊢
  rw [roundFigures?]
  split
  · refine ⟨d, rfl, ?_⟩
    rw [roundedAt_of_scale_le (by omega), value]
  · obtain ⟨cut, hcut⟩ : ∃ cut, (digits d.coefficient).length - figures = cut := ⟨_, rfl⟩
    have hcut' : ((digits d.coefficient).length : ℤ) - figures = cut := by omega
    rw [hcut'] at hlt ⊢
    rw [hcut]
    dsimp only
    split
    · refine ⟨_, rfl, ?_⟩
      rw [value_roundPlaces, roundedAt_value, Nat.cast_sub ‹_›]
    · rw [← roundedAt_cut_of_lt (not_le.1 ‹_›)] at hlt ⊢
      rw [abs_signedBy (Nat.cast_nonneg _)] at hlt
      rw [if_pos (by exact_mod_cast hlt)]
      refine ⟨_, rfl, ?_⟩
      rw [value]
      simp

/-- What is held rounded is below the bound, as a number that has places is far below it. -/
theorem abs_roundedAt_lt_of_roundFigures? {r : Scaled} {figures : ℕ} (h0 : 0 < d.coefficient)
    (hlt : |d.value| < 2 ^ 96) (hplaces : d.scale = 0 ∨ |d.value| < 2 ^ 53)
    (hr : d.roundFigures? figures = some r) :
    |roundedAt (figures - 1 - Int.log 10 |d.value|) d.value| < 2 ^ 96 := by
  rw [places_eq h0]
  rw [roundFigures?] at hr
  split at hr
  · rwa [roundedAt_value, roundedAt_of_scale_le (by omega), ← value]
  · obtain ⟨cut, hcut⟩ : ∃ cut, (digits d.coefficient).length - figures = cut := ⟨_, rfl⟩
    have hcut' : ((digits d.coefficient).length : ℤ) - figures = cut := by omega
    rw [hcut'] at *
    rw [hcut] at hr
    dsimp only at hr
    split at hr
    · have hsmall := hplaces.resolve_left (by omega)
      have hclose := abs_roundedAt_sub_le (by omega : (0 : ℤ) ≤ d.scale - cut) d.value
      linarith [abs_sub_abs_le_abs_sub (roundedAt (d.scale - cut) d.value) d.value]
    · rw [roundedAt_value, ← roundedAt_cut_of_lt (not_le.1 ‹_›), abs_signedBy (Nat.cast_nonneg _)]
      split at hr
      · rename_i hbound
        exact_mod_cast hbound
      · cases hr

theorem value_ne_zero (d : Scaled) (h : d.coefficient ≠ 0) : d.value ≠ 0 := by
  rw [← abs_pos, d.abs_value]
  positivity

/-! ## From the shortest decimal -/

/-- Past 28 places the next digit decides whether the last place goes up. -/
theorem floor_add_half (c k : ℕ) (hk : 0 < k) :
    (if 5 ≤ c / 10 ^ (k - 1) % 10 then c / 10 ^ k + 1 else c / 10 ^ k : ℕ) =
      ⌊(c : ℚ) / 10 ^ k + 1 / 2⌋ := by
  obtain ⟨j, rfl⟩ : ∃ j, k = j + 1 := ⟨k - 1, by omega⟩
  have hsum : (c : ℚ) / 10 ^ (j + 1) + 1 / 2 = (c + 5 * 10 ^ j : ℕ) / (10 ^ (j + 1) : ℕ) := by
    push_cast
    rw [pow_succ]
    field_simp
    ring
  have hpos : 0 < 10 ^ j := by positivity
  rw [hsum, Rat.floor_natCast_div_natCast, ← Int.natCast_div, Nat.add_sub_cancel, pow_succ,
    ← Nat.div_div_eq_div_mul, ← Nat.div_div_eq_div_mul, Nat.add_mul_div_right _ _ hpos]
  split <;> omega

/-- The shortest decimal is held at 28 places, unless it is too great. -/
theorem exists_ofScientific? (negative : Bool) {s : Scientific} (h : s.value < 2 ^ 96) :
    ∃ d, ofScientific? negative s = some d ∧
      d.value = signedBy negative (heldMagnitude s.value) := by
  rw [ofScientific?]
  split
  · obtain ⟨k, hk⟩ := Int.eq_ofNat_of_zero_le ‹0 ≤ s.exponent›
    have hvalue : s.value = (s.coefficient * 10 ^ k : ℕ) := by
      rw [Scientific.value, hk, zpow_natCast]
      push_cast
      rfl
    rw [heldMagnitude_value (by omega), hk, Int.toNat_natCast]
    rw [hvalue] at h ⊢
    dsimp only
    rw [if_pos (by exact_mod_cast h)]
    refine ⟨_, rfl, ?_⟩
    rw [value]
    simp
  · obtain ⟨k, hk⟩ : ∃ k : ℕ, s.exponent.natAbs = k := ⟨_, rfl⟩
    have hexponent : s.exponent = -k := by omega
    rw [hk]
    dsimp only
    split
    · refine ⟨_, rfl, ?_⟩
      have hk28 : k ≤ 28 := ‹_›
      rw [heldMagnitude_value (by omega), value, Scientific.value, hexponent]
    · have hk28 : ¬k ≤ 28 := ‹_›
      refine ⟨_, rfl, ?_⟩
      have hquotient : s.value * 10 ^ 28 = s.coefficient / 10 ^ (k - 28) := by
        have hten : (10 : ℚ) ^ 28 = 10 ^ (28 : ℤ) := rfl
        have hsub : (-k + 28 : ℤ) = -(k - 28 : ℕ) := by omega
        rw [Scientific.value, hexponent, mul_assoc, hten, ← zpow_add₀ (by norm_num), hsub, zpow_neg,
          zpow_natCast, div_eq_mul_inv]
      rw [heldMagnitude, hquotient, ← floor_add_half _ _ (by omega), Int.cast_natCast]
      rfl

/-- A whole decimal that is too great is not held. -/
theorem ofScientific?_eq_none (negative : Bool) {s : Scientific} (h0 : 0 ≤ s.exponent)
    (h : 2 ^ 96 ≤ s.value) : ofScientific? negative s = none := by
  obtain ⟨k, hk⟩ := Int.eq_ofNat_of_zero_le h0
  have hvalue : s.value = (s.coefficient * 10 ^ k : ℕ) := by
    rw [Scientific.value, hk, zpow_natCast]
    push_cast
    rfl
  rw [hvalue] at h
  rw [ofScientific?, if_pos h0, hk, Int.toNat_natCast]
  exact if_neg (not_lt.2 (by exact_mod_cast h))

/-- One that is held has no places. -/
theorem scale_of_ofScientific? {negative : Bool} {s : Scientific} (h0 : 0 ≤ s.exponent)
    (h : ofScientific? negative s = some d) : d.scale = 0 := by
  rw [ofScientific?, if_pos h0] at h
  dsimp only at h
  split at h
  · cases h
    rfl
  · cases h

/-! ## To a double -/

theorem rounded_toFloat (h : |d.value| < Numeric.overflow) :
    ∃ b, Binary.ofFloat? d.toFloat = some b ∧ Numeric.Rounded d.value b := by
  have hmagnitude : ∃ b, Binary.ofFloat? (scaledFloat d.coefficient (-d.scale)) = some b ∧
      Numeric.Rounded (d.coefficient * 10 ^ (-d.scale : ℤ)) b := by
    rcases Nat.eq_zero_or_pos d.coefficient with h0 | h0
    · refine ⟨⟨false, 0, -1074⟩, ?_, ?_⟩
      · rw [h0, scaledFloat, if_pos rfl]
        rfl
      · rw [h0, Nat.cast_zero, zero_mul]
        exact Numeric.rounded_zero (Numeric.canonical_zero _) rfl
    · exact Numeric.rounded_scaledFloat h0 _ (d.abs_value ▸ h)
  obtain ⟨b, hb, hrounded⟩ := hmagnitude
  rw [toFloat, value, signedBy]
  split
  · exact ⟨b.neg, Numeric.ofFloat?_neg hb, hrounded.neg⟩
  · exact ⟨b, hb, hrounded⟩

end Scaled

/-! ## The shortest decimal of a double -/

namespace Binary

variable {b : Binary}

/-- The number that the shortest decimal of a double writes. -/
def decimal (b : Binary) : ℚ := signedBy b.negative (shortest b.mantissa b.exponent).value

/-- The same number at 28 decimal places, halves away from zero. -/
def held (b : Binary) : ℚ :=
  signedBy b.negative (heldMagnitude (shortest b.mantissa b.exponent).value)

theorem held_eq_decimal (h : -28 ≤ (shortest b.mantissa b.exponent).exponent) :
    b.held = b.decimal := by
  rw [held, heldMagnitude_value h, decimal]

/-- At 28 places a decimal is at most half a unit more. -/
theorem abs_held_le (b : Binary) : |b.held| ≤ |b.decimal| + 1 / 2 := by
  have hpos : 0 ≤ (shortest b.mantissa b.exponent).value := by
    rw [Scientific.value]
    positivity
  obtain ⟨hnonneg, hle⟩ := heldMagnitude_mem hpos
  rw [held, decimal, abs_signedBy hnonneg, abs_signedBy hpos]
  exact hle

theorem value_shortest_eq_zero (hb : b.Canonical) (h0 : b.mantissa = 0) :
    (shortest b.mantissa b.exponent).value = 0 := by
  have he : b.exponent = -1074 := hb.leading.resolve_left (by omega)
  have hzero : shortest 0 (-1074) = ⟨0, -322⟩ := by decide +kernel
  rw [h0, he, hzero, Scientific.value, Nat.cast_zero, zero_mul]

theorem decimal_eq_zero (hb : b.Canonical) (h0 : b.mantissa = 0) : b.decimal = 0 := by
  rw [decimal, value_shortest_eq_zero hb h0, signedBy_zero]

theorem held_eq_zero (hb : b.Canonical) (h0 : b.mantissa = 0) : b.held = 0 := by
  have hzero : heldMagnitude 0 = 0 := heldMagnitude_of_eq (n := 0) (by norm_num)
  rw [held, value_shortest_eq_zero hb h0, hzero, signedBy_zero]

/-- The shortest decimal is read as the double. -/
theorem rounded_decimal (hb : b.Canonical) : Numeric.Rounded b.decimal b := by
  rcases Nat.eq_zero_or_pos b.mantissa with h0 | hm
  · rw [decimal_eq_zero hb h0]
    exact Numeric.rounded_zero hb h0
  · obtain ⟨negative, m, e⟩ := b
    have hmagnitude := (isShortest_shortest ⟨hb.lt, hb.least_le, hb.le_greatest, hb.leading⟩ hm).rounded
    cases negative with
    | false => exact hmagnitude
    | true => exact hmagnitude.neg

end Binary

end Decimal

/-! ## Rounding a double -/

namespace Numeric

open Decimal

variable {x : Float} {b : Binary} {mode : RoundingMode} {figures : Int64}

/-- The place of the last figure that is kept, after the point. -/
def RoundingMode.places (mode : RoundingMode) (figures : ℕ) (q : ℚ) : ℤ :=
  match mode with
  | .decimalPlaces => figures
  | .significantFigures => figures - 1 - Int.log 10 |q|

/-- A number rounded exactly, ties to the even neighbour. -/
def RoundingMode.exact (mode : RoundingMode) (figures : ℕ) (q : ℚ) : ℚ :=
  roundedAt (mode.places figures q) q

theorem RoundingMode.exact_zero (mode : RoundingMode) (figures : ℕ) : mode.exact figures 0 = 0 :=
  roundedAt_of_eq (n := 0) (by rw [zero_mul, Int.cast_zero])

/-- A decimal that is held is rounded exactly, unless it no longer fits with fewer figures. -/
theorem exists_roundScaledDecimal? {d : Scaled} (h0 : 0 < d.coefficient) (n : ℕ)
    (hlt : |d.value| < 2 ^ 96 + 1 / 2)
    (hfits : mode = .significantFigures → |mode.exact n d.value| < 2 ^ 96) :
    ∃ r, roundScaledDecimal? d mode n = some r ∧ r.value = mode.exact n d.value ∧
      |r.value| < 2 ^ (97 : ℤ) := by
  cases mode with
  | decimalPlaces =>
    refine ⟨_, rfl, d.value_roundPlaces n, ?_⟩
    have hclose := abs_roundedAt_sub_le (Nat.cast_nonneg n) d.value
    have hdouble : (2 : ℚ) ^ 96 + 1 ≤ 2 ^ (97 : ℤ) := by norm_num
    rw [d.value_roundPlaces]
    linarith [abs_sub_abs_le_abs_sub (roundedAt n d.value) d.value]
  | significantFigures =>
    obtain ⟨r, hr, hvalue⟩ := Scaled.exists_roundFigures? h0 n (hfits rfl)
    refine ⟨r, hr, hvalue, ?_⟩
    rw [hvalue]
    exact (hfits rfl).trans (by norm_num)

/-- A double is equal to zero when its digits are. -/
theorem beq_zero_iff (hx : Binary.ofFloat? x = some b) : (x == 0.0) = true ↔ b.mantissa = 0 := by
  show Float.Model.UnpackedFloat.beq x.toModel.unpack (.zero .positive) = true ↔ _
  rw [unpack_eq hx, unpackedOf]
  split
  · exact iff_of_true rfl ‹_›
  · refine iff_of_false ?_ ‹_›
    cases b.negative <;> exact Bool.false_ne_true

theorem finite?_of_ofFloat? (hx : Binary.ofFloat? x = some b) : finite? x = some x := by
  rw [finite?, isFinite_eq_isSome, hx]
  rfl

/-- The decimal that a double is held as. -/
theorem exists_scaledOf? (hx : Binary.ofFloat? x = some b) (hlt : |b.decimal| < 2 ^ 96) :
    ∃ d, scaledOf? x = some d ∧ d.value = b.held := by
  rw [Binary.decimal, abs_signedBy (by rw [Scientific.value]; positivity)] at hlt
  rw [scaledOf?, hx, Option.bind_some]
  exact Scaled.exists_ofScientific? b.negative hlt

/-- A decimal with places belongs to a double below `2 ^ 53`. -/
theorem abs_held_lt (hb : b.Canonical) (h0 : b.mantissa ≠ 0)
    (h : (shortest b.mantissa b.exponent).exponent < 0) :
    |b.decimal| < 2 ^ 53 ∧ |b.held| < 2 ^ 53 := by
  have hm := Nat.pos_of_ne_zero h0
  have hb' : Binary.Canonical ⟨false, b.mantissa, b.exponent⟩ :=
    ⟨hb.lt, hb.least_le, hb.le_greatest, hb.leading⟩
  have he : b.exponent < 0 := not_le.1 fun he =>
    absurd (exponent_shortest_nonneg hb' hm he) (not_le.2 h)
  have hbits : b.mantissa.log2 < 53 := (Nat.log2_lt h0).2 hb.lt
  have hlt : (shortest b.mantissa b.exponent).value < 2 ^ (52 : ℤ) :=
    (shortest_value_lt hb' hm).trans_le (zpow_le_zpow_right₀ one_le_two (by omega))
  have hdecimal : |b.decimal| < 2 ^ 52 := by
    rw [Binary.decimal, abs_signedBy (by rw [Scientific.value]; positivity)]
    exact hlt
  constructor <;> linarith [b.abs_held_le]

/-- What the decimal that is held tells of the double. -/
theorem scaledOf?_spec {d : Scaled} (hx : Binary.ofFloat? x = some b) (h0 : b.mantissa ≠ 0)
    (hd : scaledOf? x = some d) :
    |b.decimal| < 2 ^ 96 ∧ d.value = b.held ∧ |b.held| < 2 ^ 96 ∧
      (d.scale = 0 ∨ |b.held| < 2 ^ 53) := by
  have hb := canonical_of_ofFloat? hx
  have hheld := hd
  rw [scaledOf?, hx, Option.bind_some] at hheld
  have hvalue (hlt : |b.decimal| < 2 ^ 96) : d.value = b.held := by
    obtain ⟨d', hd', hvalue⟩ := exists_scaledOf? hx hlt
    cases hd.symm.trans hd'
    exact hvalue
  rcases le_or_gt 0 (shortest b.mantissa b.exponent).exponent with he | he
  · have hlt : |b.decimal| < 2 ^ 96 := by
      by_contra hge
      rw [Binary.decimal, abs_signedBy (by rw [Scientific.value]; positivity)] at hge
      cases (Scaled.ofScientific?_eq_none b.negative he (not_lt.1 hge)).symm.trans hheld
    refine ⟨hlt, hvalue hlt, ?_, .inl (Scaled.scale_of_ofScientific? he hheld)⟩
    rwa [Binary.held_eq_decimal (by omega)]
  · obtain ⟨hdecimal, hlt⟩ := abs_held_lt hb h0 he
    have hlt96 : |b.decimal| < 2 ^ 96 := hdecimal.trans (by norm_num)
    exact ⟨hlt96, hvalue hlt96, hlt.trans (by norm_num), .inr hlt⟩

/-- A count of figures that a mode takes lets a finite double pass the checks. -/
theorem not_refused (hx : Binary.ofFloat? x = some b) (hleast : mode.least ≤ figures.toInt)
    (hfigures : figures.toInt < 2 ^ 32) :
    ¬(!x.isFinite || decide (figures.toInt < mode.least) ||
      decide ((UInt32.size : ℤ) ≤ figures.toInt)) = true := by
  have hsize : (UInt32.size : ℤ) = 2 ^ 32 := rfl
  rw [isFinite_eq_isSome, hx, hsize, decide_eq_false (not_lt.2 hleast),
    decide_eq_false (not_le.2 hfigures)]
  exact Bool.false_ne_true

theorem roundTo!_zero (hx : Binary.ofFloat? x = some b) (hleast : mode.least ≤ figures.toInt)
    (hfigures : figures.toInt < 2 ^ 32) (h0 : b.mantissa = 0) :
    roundTo! x mode figures = some (some 0.0) := by
  rw [roundTo!, if_neg (not_refused hx hleast hfigures), if_pos ((beq_zero_iff hx).2 h0)]

/-- What a double other than zero is rounded by. -/
theorem roundTo!_of_ne_zero (hx : Binary.ofFloat? x = some b) (hleast : mode.least ≤ figures.toInt)
    (hfigures : figures.toInt < 2 ^ 32) (h0 : b.mantissa ≠ 0) :
    roundTo! x mode figures =
      match scaledOf? x with
      | some d =>
        if d.coefficient = 0 then roundBinary! x mode figures.toInt.toNat
        else
          match roundScaledDecimal? d mode figures.toInt.toNat with
          | some r => some (finite? r.toFloat)
          | none => roundBinary! x mode figures.toInt.toNat
      | none => roundBinary! x mode figures.toInt.toNat :=
  (if_neg (not_refused hx hleast hfigures)).trans (if_neg (mt (beq_zero_iff hx).1 h0))

/-! ## What 96 bits hold -/

/-- 96 bits hold the shortest decimal of a double at 28 places, with a digit in it unless the double
is zero, and hold it rounded. -/
structure HeldIn96 (b : Binary) (mode : RoundingMode) (n : ℕ) : Prop where
  kept : b.mantissa = 0 ∨ b.held ≠ 0
  lt : |b.decimal| < 2 ^ 96
  rounded : mode = .significantFigures → |mode.exact n b.held| < 2 ^ 96

theorem heldIn96_zero (hb : b.Canonical) (h0 : b.mantissa = 0) (n : ℕ) : HeldIn96 b mode n := by
  refine ⟨.inl h0, ?_, fun _ => ?_⟩
  · rw [Binary.decimal_eq_zero hb h0]
    norm_num
  · rw [Binary.held_eq_zero hb h0, RoundingMode.exact_zero]
    norm_num

/-- **Where 96 bits hold the decimal**, and hold it rounded, only its digits count. -/
theorem roundTo!_of_held (hx : Binary.ofFloat? x = some b) (hleast : mode.least ≤ figures.toInt)
    (hfigures : figures.toInt < 2 ^ 32) (hheld : HeldIn96 b mode figures.toInt.toNat) :
    ∃ z, roundTo! x mode figures = some (some z) ∧
      Nearest (mode.exact figures.toInt.toNat b.held) z := by
  obtain ⟨hkept, hlt, hfits⟩ := hheld
  have hb := canonical_of_ofFloat? hx
  by_cases h0 : b.mantissa = 0
  · have hexact : mode.exact figures.toInt.toNat b.held = 0 := by
      rw [Binary.held_eq_zero hb h0, RoundingMode.exact_zero]
    refine ⟨0.0, roundTo!_zero hx hleast hfigures h0, ?_⟩
    rw [hexact]
    exact (rounded_zero (canonical_zero false) rfl).nearest rfl
  · obtain ⟨d, hd, hvalue⟩ := exists_scaledOf? hx hlt
    have hd0 : d.coefficient ≠ 0 := by
      intro hzero
      refine hkept.resolve_left h0 ?_
      rw [← hvalue, Scaled.value, hzero, Nat.cast_zero, zero_mul, signedBy_zero]
    have hheld : |d.value| < 2 ^ 96 + 1 / 2 := by
      rw [hvalue]
      linarith [b.abs_held_le]
    rw [← hvalue] at hfits ⊢
    obtain ⟨r, hr, hrvalue, hrlt⟩ :=
      exists_roundScaledDecimal? (Nat.pos_of_ne_zero hd0) _ hheld hfits
    have hoverflow : (2 : ℚ) ^ (97 : ℤ) ≤ overflow := two_zpow_le_overflow (by norm_num)
    obtain ⟨c, hc, hrounded⟩ := Scaled.rounded_toFloat (lt_of_lt_of_le hrlt hoverflow)
    rw [hrvalue] at hrounded
    refine ⟨r.toFloat, ?_, hrounded.nearest hc⟩
    rw [roundTo!_of_ne_zero hx hleast hfigures h0, hd]
    dsimp only
    rw [if_neg hd0, hr]
    dsimp only
    rw [finite?_of_ofFloat? hc]

/-- **Where 96 bits do not hold it** the double itself is rounded. -/
theorem roundTo!_of_not_held (hx : Binary.ofFloat? x = some b) (hleast : mode.least ≤ figures.toInt)
    (hfigures : figures.toInt < 2 ^ 32) (hheld : ¬HeldIn96 b mode figures.toInt.toNat) :
    roundTo! x mode figures = roundBinary! x mode figures.toInt.toNat := by
  have hb := canonical_of_ofFloat? hx
  have h0 : b.mantissa ≠ 0 := fun h0 => hheld (heldIn96_zero hb h0 _)
  rw [roundTo!_of_ne_zero hx hleast hfigures h0]
  cases hd : scaledOf? x with
  | none => rfl
  | some d =>
    obtain ⟨hlt, hvalue, hheld', hplaces⟩ := scaledOf?_spec hx h0 hd
    dsimp only
    split
    · rfl
    · rename_i hd0
      cases hr : roundScaledDecimal? d mode figures.toInt.toNat with
      | none => rfl
      | some r =>
        -- Then the decimal is held after all.
        rw [← hvalue] at hheld' hplaces
        refine absurd ⟨.inr (hvalue ▸ d.value_ne_zero hd0), hlt, ?_⟩ hheld
        rintro rfl
        rw [← hvalue]
        exact Scaled.abs_roundedAt_lt_of_roundFigures? (Nat.pos_of_ne_zero hd0) hheld' hplaces hr

end Numeric

end Assessment
