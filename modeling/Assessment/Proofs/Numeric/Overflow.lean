import Assessment.Proofs.Numeric.Arithmetic

/-!
# Beyond the greatest double

A product that is too great for a double is infinite, and so is the product of a number other than
zero with an infinite double.

The fallback `round_to_binary` meets such products: its scale is infinite from 309 factors on, and
then the double is given back as it is.

* `infinite`: the infinite doubles.
* `mul_of_overflow`: a product of at least the overflow is infinite.
* `mul_infinite`, `infinite_mul`: a number and an infinite double.
-/

namespace Assessment.Numeric

open Decimal Float.Model Float.Model.UnpackedFloat

variable {x y : Float} {b c : Binary} {q : ℚ} {m : ℕ} {e : ℤ} {a : Accuracy}

/-! ## Infinite doubles -/

/-- The infinite double of a sign. -/
def infinite (negative : Bool) : Float := .ofModel (Float.Model.pack (.infinity (toSign negative)))

theorem unpack_infinite (negative : Bool) :
    (infinite negative).toModel.unpack = .infinity (toSign negative) := by
  cases negative <;> rfl

theorem isFinite_infinite (negative : Bool) : (infinite negative).isFinite = false := by
  cases negative <;> rfl

/-- An unpacked number beyond the exponents of doubles is packed as infinite. -/
theorem pack_of_exponent (h0 : b.mantissa ≠ 0) (he : 971 < b.exponent) :
    Float.Model.pack (unpackedOf b) = Float.Model.pack (.infinity (toSign b.negative)) := by
  have hbias : Format.binary64.exponentBias = 1023 := rfl
  have hexponent : 2 ^ Format.binary64.exponentBits ≤ (b.exponent + 1023 + 52).toNat + 1 := by
    show 2048 ≤ _
    omega
  rw [unpackedOf, dif_neg h0, Float.Model.pack, Float.Model.pack]
  simp only [UnpackedFloat.pack, hbias, Nat.cast_ofNat, if_pos hexponent]

/-- **Too great to be rounded**: digits that are enough, of a number of at least the overflow,
become an infinite double. -/
theorem pack_roundWithAccuracy_of_overflow (h : Represents (.ofMantissaAndAccuracy m a) q)
    (hq : 0 < q) (hm : 2 ^ 52 ≤ m ∨ e ≤ -1074) (hge : overflow ≤ q * 2 ^ e) (negative : Bool) :
    Float.Model.pack (roundWithAccuracy .binary64 (toSign negative) m e a) =
      Float.Model.pack (.infinity (toSign negative)) := by
  obtain ⟨n, b, hnearest, heq, rfl, hparts⟩ :=
    exists_roundWithAccuracy_nearestInt h hq hm negative
  have hpos : 0 < q * 2 ^ e := by positivity
  have hgrid : 971 ≤ gridExponent (q * 2 ^ e) := by
    have hlt := abs_lt_of_gridExponent (q * 2 ^ e)
    rw [abs_of_pos hpos] at hlt
    have hpow := (two_zpow_le_overflow le_rfl).trans_lt (hge.trans_lt hlt)
    rw [zpow_lt_zpow_iff_right₀ one_lt_two] at hpow
    omega
  have hleading := (nearestInt_digits hpos hnearest).2.resolve_right (by omega)
  rw [heq]
  refine pack_of_exponent (by omega) ?_
  rcases hparts with ⟨hn, -, he⟩ | ⟨-, -, he⟩
  · -- On the grid of the greatest doubles the overflow is half a unit below two to the power 53.
    refine he ▸ lt_of_le_of_ne hgrid fun h971 => ?_
    rw [← h971] at hnearest
    have hunit : (0 : ℚ) < 2 ^ (971 : ℤ) := by positivity
    have hquotient : ((2 ^ 53 : ℤ) : ℚ) - 1 / 2 ≤ q * 2 ^ e / 2 ^ (971 : ℤ) := by
      rw [le_div_iff₀ hunit, Int.cast_pow, Int.cast_ofNat]
      exact hge
    have hcarry := hnearest.ge_of_half_le ⟨2 ^ 52, by norm_num⟩ hquotient
    omega
  · omega

/-! ## Products and quotients -/

/-- **A product that is too great** is infinite. -/
theorem mul_of_overflow (hx : Binary.ofFloat? x = some b) (hy : Binary.ofFloat? y = some c)
    (hge : overflow ≤ |b.value * c.value|) : x * y = infinite (b.negative != c.negative) := by
  have hb := canonical_of_ofFloat? hx
  have hc := canonical_of_ofFloat? hy
  have hpos : 0 < overflow := by
    rw [overflow]
    norm_num
  have hb0 : b.mantissa ≠ 0 := fun h => by
    rw [Binary.value_eq_zero h, zero_mul, abs_zero] at hge
    linarith
  have hc0 : c.mantissa ≠ 0 := fun h => by
    rw [Binary.value_eq_zero h, mul_zero, abs_zero] at hge
    linarith
  have hvalue : |b.value * c.value| =
      ((b.mantissa * c.mantissa : ℕ) : ℚ) * 2 ^ (b.exponent + c.exponent) := by
    rw [abs_mul, b.abs_value, c.abs_value, Nat.cast_mul, zpow_add₀ two_ne_zero, mul_mul_mul_comm]
  have hmantissa : (0 : ℚ) < (b.mantissa * c.mantissa : ℕ) :=
    Nat.cast_pos.2 (Nat.mul_pos (Nat.pos_of_ne_zero hb0) (Nat.pos_of_ne_zero hc0))
  have hdigits := digits_mul hb hc (Nat.pos_of_ne_zero hb0) (Nat.pos_of_ne_zero hc0)
  have hpack := pack_roundWithAccuracy_of_overflow (represents_exact _) hmantissa hdigits
    (hvalue ▸ hge) (b.negative != c.negative)
  show Float.ofModel (Float.Model.pack
    (UnpackedFloat.mul .binary64 x.toModel.unpack y.toModel.unpack)) = _
  rw [unpack_eq hx, unpack_eq hy, unpackedOf, dif_neg hb0, unpackedOf, dif_neg hc0, infinite,
    ← hpack, ← toSign_mul]
  rfl

theorem mul_infinite (hx : Binary.ofFloat? x = some b) (h0 : b.mantissa ≠ 0) (negative : Bool) :
    x * infinite negative = infinite (b.negative != negative) := by
  show Float.ofModel (Float.Model.pack
    (UnpackedFloat.mul .binary64 x.toModel.unpack (infinite negative).toModel.unpack)) = _
  rw [unpack_eq hx, unpack_infinite, unpackedOf, dif_neg h0, infinite, ← toSign_mul]
  rfl

theorem infinite_mul (hy : Binary.ofFloat? y = some c) (h0 : c.mantissa ≠ 0) (negative : Bool) :
    infinite negative * y = infinite (negative != c.negative) := by
  show Float.ofModel (Float.Model.pack
    (UnpackedFloat.mul .binary64 (infinite negative).toModel.unpack y.toModel.unpack)) = _
  rw [unpack_eq hy, unpack_infinite, unpackedOf, dif_neg h0, infinite, ← toSign_mul]
  rfl

theorem infinite_mul_infinite (s t : Bool) : infinite s * infinite t = infinite (s != t) := by
  cases s <;> cases t <;> rfl

/-- The zero of a sign. -/
def zeroOf (negative : Bool) : Float := if negative then -0.0 else 0.0

theorem ofFloat?_zeroOf (negative : Bool) :
    Binary.ofFloat? (zeroOf negative) = some ⟨negative, 0, -1074⟩ := by
  cases negative <;> rfl

end Assessment.Numeric
