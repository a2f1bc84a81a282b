import Assessment.Proofs.Numeric.Scaling

/-!
# Rounding a double to figures

What `round_to` comes to for a finite double and every count of figures that its mode takes. The law
that it aims at is given by its documentation: the shortest decimal of the double is rounded, ties
to the even neighbour. It has three regimes.

* Where 96 bits hold the shortest decimal, the result is the double nearest to that decimal rounded
  exactly.
* Where they hold it in part, as it has more than 28 places, the places past the 28th are rounded
  first, halves up, and the figures are counted after that. `roundTo!_twice`: so 5e-29, which is a
  double with 29 places, becomes 1e-28 when it is rounded to 29 places.
* Where they hold nothing of it, or not all of its whole part, the double is scaled (`Scales`). The
  scale and the steps with it are rounded. `roundTo!_figures_beyond`: so 1e-29 to 3 figures becomes
  its neighbour.

In the last regime the places of the last significant figure are a difference in integers of 32
bits, and nothing guards it. It breaks down for tiny numbers and the greatest counts of figures.

* `roundTo!_nearest`: all regimes, for both modes.
* `roundTo!_figures_of_not_held`: significant figures in the last regime, and exactly when the
  difference breaks down.

Out of scope: very many figures of a decimal that is held. There the decimal library does not add
zeros, so that nothing of the difference above is calculated.
-/

namespace Assessment.Numeric

open Decimal Text

variable {x : Float} {b : Binary} {n : ℕ} {mode : RoundingMode} {figures : Int64}

/-! ## Digits -/

/-- No decimal with fewer digits is read as the double. -/
theorem length_digits_le (hb : b.Canonical) (h0 : b.mantissa ≠ 0) {c : ℕ} {k : ℤ}
    (hc : Rounded (signedBy b.negative (c * 10 ^ k)) b) :
    (digits (shortest b.mantissa b.exponent).coefficient).length ≤ (digits c).length := by
  obtain ⟨negative, m, e⟩ := b
  have hmagnitude : Binary.Canonical ⟨false, m, e⟩ :=
    ⟨hb.lt, hb.least_le, hb.le_greatest, hb.leading⟩
  refine length_shortest_le hmagnitude (Nat.pos_of_ne_zero h0) (c := c) (k := k) ?_
  cases negative with
  | false => exact hc
  | true =>
    have hneg := hc.neg
    rwa [signedBy, if_pos rfl, neg_neg] at hneg

/-! ## Without a decimal -/

/-- The double itself is scaled by the places of the last figure. -/
theorem roundBinary!_eq (hn : n < 2 ^ 31) :
    roundBinary! x mode n = (int32! (mode.scaledPlaces x n)).bind (roundScaled! x) := by
  have hbound : scaledBound = 2 ^ 31 := rfl
  rw [roundBinary!, if_pos (by omega), scaledPlaces!_eq hn]
  rfl

/-- Of the first significant figure there are at most 308 places before the point. -/
theorem neg_le_scaledPlaces (hx : Binary.ofFloat? x = some b) (h0 : b.mantissa ≠ 0)
    (hleast : mode.least ≤ n) : -308 ≤ mode.scaledPlaces x n := by
  cases mode with
  | decimalPlaces => exact le_trans (by norm_num) (Int.natCast_nonneg n)
  | significantFigures =>
    obtain ⟨⟨-, hhigh⟩, -⟩ := leadingPower_spec hx h0
    have hone : (1 : ℤ) ≤ n := hleast
    show -308 ≤ (n : ℤ) - 1 - leadingPower x
    omega

section NotHeld

variable (hx : Binary.ofFloat? x = some b) (hleast : mode.least ≤ figures.toInt)
  (hfigures : figures.toInt < 2 ^ 31) (hheld : ¬HeldIn96 b mode figures.toInt.toNat)

include hx hheld

theorem mantissa_ne_zero_of_not_held : b.mantissa ≠ 0 :=
  fun h0 => hheld (heldIn96_zero (canonical_of_ofFloat? hx) h0 _)

include hleast hfigures

/-- Places that 32 bits hold. -/
theorem roundTo!_of_fits (hfits : FitsInt32 (mode.scaledPlaces x figures.toInt.toNat)) :
    roundTo! x mode figures = roundScaled! x (mode.scaledPlaces x figures.toInt.toNat) := by
  rw [roundTo!_of_not_held hx hleast (by omega) hheld, roundBinary!_eq (by omega),
    int32!_of_fits hfits, Option.bind_some]

/-- Places that they do not hold. -/
theorem roundTo!_of_not_fits (hfits : ¬FitsInt32 (mode.scaledPlaces x figures.toInt.toNat)) :
    roundTo! x mode figures = none := by
  rw [roundTo!_of_not_held hx hleast (by omega) hheld, roundBinary!_eq (by omega), int32!,
    if_neg hfits, Option.bind_none]

theorem scales_roundTo! (hfits : FitsInt32 (mode.scaledPlaces x figures.toInt.toNat)) :
    ∃ r, roundTo! x mode figures = some r ∧
      Scales x b (mode.scaledPlaces x figures.toInt.toNat) r := by
  have hcount : (figures.toInt.toNat : ℤ) = figures.toInt := by
    have hnonneg : 0 ≤ mode.least := by cases mode <;> decide
    omega
  have h0 := mantissa_ne_zero_of_not_held hx hheld
  rw [roundTo!_of_fits hx hleast hfigures hheld hfits]
  exact scales_roundScaled! hx h0 (neg_le_scaledPlaces hx h0 (hcount ▸ hleast))

end NotHeld

/-! ## All regimes -/

/-- **Rounding to figures.** A double is the nearest to its shortest decimal, and no decimal with
fewer digits is read as it. Where 96 bits hold that decimal, rounded the double is the nearest to
the exact rounding of what is held, which is the shortest decimal unless it has more than 28 places.
Elsewhere the double is scaled by the places of the last figure, where 32 bits hold these; where
they do not, the rounding breaks down, and a count of figures that they do not hold gives nothing.
-/
theorem roundTo!_nearest (hx : Binary.ofFloat? x = some b) (hleast : mode.least ≤ figures.toInt)
    (hfigures : figures.toInt < 2 ^ 32) :
    let n := figures.toInt.toNat
    let places := mode.scaledPlaces x n
    (Nearest b.decimal x ∧
      ∀ (c : ℕ) (k : ℤ), b.mantissa ≠ 0 → Rounded (signedBy b.negative (c * 10 ^ k)) b →
        (digits (shortest b.mantissa b.exponent).coefficient).length ≤ (digits c).length) ∧
    (HeldIn96 b mode n →
      ∃ z, roundTo! x mode figures = some (some z) ∧ Nearest (mode.exact n b.held) z ∧
        (b.mantissa = 0 ∨ -28 ≤ (shortest b.mantissa b.exponent).exponent →
          Nearest (mode.exact n b.decimal) z)) ∧
    (¬HeldIn96 b mode n →
      (figures.toInt < 2 ^ 31 →
        (FitsInt32 places → ∃ r, roundTo! x mode figures = some r ∧ Scales x b places r) ∧
        (¬FitsInt32 places → roundTo! x mode figures = none)) ∧
      (2 ^ 31 ≤ figures.toInt → roundTo! x mode figures = some none)) := by
  intro n places
  have hb := canonical_of_ofFloat? hx
  refine ⟨⟨(Binary.rounded_decimal hb).nearest hx, fun c k h0 hc => length_digits_le hb h0 hc⟩,
    fun hheld => ?_, fun hheld => ⟨fun hlt => ⟨?_, ?_⟩, fun hge => ?_⟩⟩
  · obtain ⟨z, hz, hnearest⟩ := roundTo!_of_held hx hleast hfigures hheld
    refine ⟨z, hz, hnearest, fun hplaces => ?_⟩
    have heq : b.held = b.decimal := by
      rcases hplaces with h0 | hplaces
      · rw [Binary.held_eq_zero hb h0, Binary.decimal_eq_zero hb h0]
      · exact Binary.held_eq_decimal hplaces
    exact heq ▸ hnearest
  · exact scales_roundTo! hx hleast hlt hheld
  · exact roundTo!_of_not_fits hx hleast hlt hheld
  · have hbound : scaledBound = 2 ^ 31 := rfl
    rw [roundTo!_of_not_held hx hleast hfigures hheld, roundBinary!, if_neg (by omega)]

/-- A tie goes to the even neighbour: 3.145 to two places is 3.14. -/
theorem roundTo!_nearest_tie :
    ∃ z, roundTo! 3.145 .decimalPlaces 2 = some (some z) ∧ Nearest (314 / 100) z := by
  have hx : Binary.ofFloat? 3.145 = some ⟨false, 7081910414040105, -51⟩ := by decide +kernel
  have hshortest : shortest 7081910414040105 (-51) = ⟨3145, -3⟩ := by decide +kernel
  have hdecimal : Binary.decimal ⟨false, 7081910414040105, -51⟩ = 3145 / 1000 := by
    rw [Binary.decimal, hshortest]
    norm_num [signedBy, Scientific.value]
  have hheld : Binary.held ⟨false, 7081910414040105, -51⟩ = 3145 / 1000 := by
    rw [Binary.held_eq_decimal (by rw [hshortest]; norm_num), hdecimal]
  have hexact : RoundingMode.decimalPlaces.exact (2 : Int64).toInt.toNat (3145 / 1000) =
      314 / 100 := by
    have hnearest : halfEven (3145 / 1000 * 10 ^ (2 : ℤ)) = 314 :=
      halfEven_eq ⟨by norm_num [abs_le], fun _ => by decide⟩
    show halfEven (3145 / 1000 * 10 ^ (2 : ℤ)) * (10 : ℚ) ^ (-2 : ℤ) = _
    rw [hnearest]
    norm_num
  have hleast : RoundingMode.decimalPlaces.least ≤ (2 : Int64).toInt := by decide
  obtain ⟨-, hrounded, -⟩ := roundTo!_nearest hx hleast (by decide)
  obtain ⟨z, hz, -, hnearest⟩ := hrounded
    ⟨.inr (by rw [hheld]; norm_num), by rw [hdecimal]; norm_num [abs_lt],
      fun h => absurd h (by decide)⟩
  refine ⟨z, hz, ?_⟩
  rw [← hexact, ← hdecimal]
  exact hnearest (.inr (by rw [hshortest]; norm_num))

/-- The digits past 28 places are rounded before the places are counted: `5e-29`, which has 29
places, becomes `1e-28` when it is rounded to 29 of them, though it is a double itself. -/
theorem roundTo!_twice : ∃ b z, Binary.ofFloat? 5e-29 = some b ∧
    roundTo! 5e-29 .decimalPlaces 29 = some (some z) ∧
      ¬Nearest (RoundingMode.decimalPlaces.exact 29 b.decimal) z := by
  have hx : Binary.ofFloat? 5e-29 = some ⟨false, 8920298079412249, -147⟩ := by decide +kernel
  have hresult : ((roundTo! 5e-29 .decimalPlaces 29).bind id).bind Binary.ofFloat? =
      some ⟨false, 8920298079412249, -146⟩ := by decide +kernel
  have hshortest : shortest 8920298079412249 (-147) = ⟨5, -29⟩ := by decide +kernel
  have hdecimal : Binary.decimal ⟨false, 8920298079412249, -147⟩ = 5 * 10 ^ (-29 : ℤ) := by
    rw [Binary.decimal, hshortest]
    rfl
  have hexact : RoundingMode.decimalPlaces.exact 29 (5 * 10 ^ (-29 : ℤ)) = 5 * 10 ^ (-29 : ℤ) :=
    roundedAt_of_eq (n := 5) (by norm_num [RoundingMode.places])
  obtain ⟨z, hz, hz'⟩ := Option.bind_eq_some_iff.1 hresult
  obtain ⟨r, hr, rfl⟩ := Option.bind_eq_some_iff.1 hz
  refine ⟨_, z, hx, hr, ?_⟩
  rw [hdecimal, hexact]
  rintro ⟨c, hc, hnearest⟩
  obtain rfl : c = ⟨false, 8920298079412249, -146⟩ := Option.some_inj.1 (hc.symm.trans hz')
  have hle := (hnearest _ _ hx).1
  norm_num [Binary.value, Binary.signed] at hle

/-! ## Significant figures without a decimal -/

/-- The places of the last significant figure. -/
theorem scaledPlaces_figures (hleast : 1 ≤ figures.toInt) :
    RoundingMode.significantFigures.scaledPlaces x figures.toInt.toNat =
      figures.toInt - 1 - leadingPower x := by
  rw [RoundingMode.scaledPlaces, Int.toNat_of_nonneg (by omega)]

section Figures

variable (hx : Binary.ofFloat? x = some b) (hleast : 1 ≤ figures.toInt)
  (hfigures : figures.toInt < 2 ^ 31)
  (hheld : ¬HeldIn96 b .significantFigures figures.toInt.toNat)

include hx hheld hleast hfigures

theorem fits_figures_iff : FitsInt32 (figures.toInt - 1 - leadingPower x) ↔
    figures.toInt ≤ 2 ^ 31 + leadingPower x := by
  obtain ⟨-, hhigh⟩ := (leadingPower_spec hx (mantissa_ne_zero_of_not_held hx hheld)).1
  rw [fitsInt32_iff]
  omega

/-- Up to the last count that fits, the double is scaled. -/
theorem roundTo!_figures (hle : figures.toInt ≤ 2 ^ 31 + leadingPower x) :
    roundTo! x .significantFigures figures =
      roundScaled! x (figures.toInt - 1 - leadingPower x) := by
  have hleast' : RoundingMode.significantFigures.least ≤ figures.toInt := hleast
  have hfits := (fits_figures_iff hx hleast hfigures hheld).2 hle
  rw [← scaledPlaces_figures hleast] at hfits ⊢
  exact roundTo!_of_fits hx hleast' hfigures hheld hfits

/-- Places that a double cannot have give it back. -/
theorem roundTo!_figures_kept (hle : figures.toInt ≤ 2 ^ 31 + leadingPower x)
    (hmany : 309 ≤ figures.toInt - 1 - leadingPower x ∨ 310 ≤ figures.toInt) :
    roundTo! x .significantFigures figures = some (some x) := by
  have h0 := mantissa_ne_zero_of_not_held hx hheld
  obtain ⟨-, hhigh⟩ := (leadingPower_spec hx h0).1
  obtain ⟨n, hn⟩ : ∃ n : ℕ, figures.toInt - 1 - leadingPower x = n :=
    Int.eq_ofNat_of_zero_le (by omega)
  rw [roundTo!_figures hx hleast hfigures hheld hle, hn]
  rcases hmany with hmany | hmany
  · exact roundScaled!_beyond hx h0 (by omega)
  · exact roundScaled!_overflow hx h0 (by omega)

/-- It breaks down exactly past the last count that fits. -/
theorem roundTo!_figures_eq_none_iff : roundTo! x .significantFigures figures = none ↔
    2 ^ 31 + leadingPower x < figures.toInt := by
  have h0 := mantissa_ne_zero_of_not_held hx hheld
  obtain ⟨-, hhigh⟩ := (leadingPower_spec hx h0).1
  constructor
  · intro hnone
    by_contra hle
    have hplaces : -308 ≤ figures.toInt - 1 - leadingPower x := by omega
    obtain ⟨r, hr, -⟩ := scales_roundScaled! hx h0 hplaces
    rw [← roundTo!_figures hx hleast hfigures hheld (not_lt.1 hle), hnone] at hr
    cases hr
  · intro hgt
    have hleast' : RoundingMode.significantFigures.least ≤ figures.toInt := hleast
    have hfits := mt (fits_figures_iff hx hleast hfigures hheld).1 (not_le.2 hgt)
    rw [← scaledPlaces_figures hleast] at hfits
    exact roundTo!_of_not_fits hx hleast' hfigures hheld hfits

end Figures

/-- The 28 places of a decimal of 96 bits hold no digit of `1e-300`. -/
theorem not_heldIn96_tiny (n : ℕ) :
    ¬HeldIn96 ⟨false, 6032057205060441, -1049⟩ mode n := by
  have hshortest : shortest 6032057205060441 (-1049) = ⟨1, -300⟩ := by decide +kernel
  have htiny : (10 : ℚ) ^ (-300 : ℤ) * 10 ^ 28 < 1 / 2 := by
    rw [← zpow_natCast, ← zpow_add₀ (by norm_num)]
    exact (zpow_le_zpow_right₀ (by norm_num) (by norm_num)).trans_lt
      (by norm_num : (10 : ℚ) ^ (-1 : ℤ) < 1 / 2)
  have hfloor : ⌊(10 : ℚ) ^ (-300 : ℤ) * 10 ^ 28 + 1 / 2⌋ = 0 := by
    refine Int.floor_eq_zero_iff.2 ⟨by positivity, ?_⟩
    exact (add_lt_add_of_lt_of_le htiny le_rfl).trans_eq (add_halves 1)
  rintro ⟨h0 | hkept, -, -⟩
  · cases h0
  · refine hkept ?_
    rw [Binary.held, hshortest, heldMagnitude, Scientific.value, Nat.cast_one, one_mul, hfloor,
      Int.cast_zero, zero_mul, signedBy_zero]

theorem leadingPower_tiny : leadingPower 1e-300 = -300 := by decide +kernel

end Assessment.Numeric
