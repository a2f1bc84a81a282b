import Assessment.Numeric.Rounding
import Assessment.Proofs.Numeric.Nearest

/-!
# The exact value of a double

A finite double stands for a number, its mantissa times a power of two. The parts that are read off
its bits are those of the unpacked double, zero with the least exponent of all, and they are
canonical: 53 digits, the first of them not zero unless the exponent is the least. Every canonical
parts are those of a double.

The roundings to integers are decided by exact arithmetic on these parts: `floor`, `ceil` and
`trunc` of a double are exact in the program, and the results on `round_half_up` and on shortest
decimals are about the exact value.

* `Binary.value`: the number; `Binary.floor_eq`: the integer next below it.
* `ofFloat?_eq`: the parts of a double are those of the unpacked double.
* `canonical_of_ofFloat?`, `ofFloat?_pack`: parts of doubles are canonical, and canonical parts are
  those of a double.
-/

namespace Assessment

open Decimal

/-- A magnitude with a sign. -/
def signedBy (negative : Bool) (q : ℚ) : ℚ := if negative then -q else q

theorem signedBy_zero (negative : Bool) : signedBy negative 0 = 0 := by
  rw [signedBy, neg_zero, ite_self]

theorem abs_signedBy {q : ℚ} (h : 0 ≤ q) (negative : Bool) : |signedBy negative q| = q := by
  cases negative with
  | false => exact abs_of_nonneg h
  | true => exact (abs_neg q).trans (abs_of_nonneg h)

/-- A multiple of a power of two is a multiple of all lesser ones. -/
theorem exists_mul_zpow_eq {t e : ℤ} (h : t ≤ e) (k : ℤ) :
    ∃ j : ℤ, (k : ℚ) * 2 ^ e = j * 2 ^ t := by
  refine ⟨k * 2 ^ (e - t).toNat, ?_⟩
  rw [Int.cast_mul, Int.cast_pow, Int.cast_ofNat, ← zpow_natCast, Int.toNat_of_nonneg (by omega),
    mul_assoc, ← zpow_add₀ two_ne_zero, sub_add_cancel]

/-! ## Parts -/

namespace Decimal.Binary

variable {b : Binary}

/-- The number that the parts stand for. -/
def value (b : Binary) : ℚ := b.signed * 2 ^ b.exponent

/-- The parts that a double may have. -/
structure Canonical (b : Binary) : Prop where
  lt : b.mantissa < 2 ^ 53
  least_le : -1074 ≤ b.exponent
  le_greatest : b.exponent ≤ 971
  leading : 2 ^ 52 ≤ b.mantissa ∨ b.exponent = -1074

theorem value_eq_signedBy (b : Binary) :
    b.value = signedBy b.negative (b.mantissa * 2 ^ b.exponent) := by
  obtain ⟨negative, m, e⟩ := b
  cases negative <;> simp [value, signed, signedBy]

theorem value_eq_zero (h : b.mantissa = 0) : b.value = 0 := by
  rw [value_eq_signedBy, h, Nat.cast_zero, zero_mul, signedBy_zero]

/-- The number is a multiple of all powers of two up to that of its exponent. -/
theorem exists_value_eq_mul {t : ℤ} (h : t ≤ b.exponent) : ∃ j : ℤ, b.value = j * 2 ^ t :=
  exists_mul_zpow_eq h b.signed

/-- The opposite. -/
def neg (b : Binary) : Binary := { b with negative := !b.negative }

theorem signed_neg (b : Binary) : b.neg.signed = -b.signed := by
  obtain ⟨negative, m, e⟩ := b
  cases negative <;> simp [neg, signed]

theorem value_neg (b : Binary) : b.neg.value = -b.value := by
  rw [value, signed_neg, Int.cast_neg, neg_mul]
  rfl

theorem Canonical.neg (h : b.Canonical) : b.neg.Canonical :=
  ⟨h.lt, h.least_le, h.le_greatest, h.leading⟩

theorem abs_value (b : Binary) : |b.value| = b.mantissa * 2 ^ b.exponent := by
  rw [value_eq_signedBy, abs_signedBy (by positivity)]

/-- Canonical parts have at most 53 digits. -/
theorem Canonical.abs_value_le (h : b.Canonical) :
    |b.value| ≤ 2 ^ (b.exponent + 53) - 2 ^ b.exponent := by
  have hm : (b.mantissa : ℚ) + 1 ≤ 2 ^ (53 : ℤ) := by exact_mod_cast h.lt
  have hunit : (0 : ℚ) < 2 ^ b.exponent := by positivity
  have hmul := mul_le_mul_of_nonneg_right hm hunit.le
  rw [add_mul, one_mul] at hmul
  rw [abs_value, add_comm b.exponent, zpow_add₀ two_ne_zero]
  linarith

theorem Canonical.abs_value_lt (h : b.Canonical) : |b.value| < 2 ^ (b.exponent + 53) := by
  have hunit : (0 : ℚ) < 2 ^ b.exponent := by positivity
  linarith [h.abs_value_le]

theorem Canonical.le_abs_value (h : b.Canonical) (he : b.exponent ≠ -1074) :
    2 ^ (b.exponent + 52) ≤ |b.value| := by
  have hm : (2 : ℚ) ^ (52 : ℤ) ≤ b.mantissa := by exact_mod_cast h.leading.resolve_right he
  rw [abs_value, add_comm, zpow_add₀ two_ne_zero]
  exact mul_le_mul_of_nonneg_right hm (by positivity)

/-- The greatest double. -/
theorem Canonical.abs_value_le_greatest (h : b.Canonical) :
    |b.value| ≤ (2 ^ 53 - 1) * 2 ^ (971 : ℤ) := by
  have hpow : (2 : ℚ) ^ b.exponent ≤ 2 ^ (971 : ℤ) :=
    zpow_le_zpow_right₀ one_le_two h.le_greatest
  have hm : (b.mantissa : ℚ) + 1 ≤ 2 ^ 53 := by exact_mod_cast h.lt
  rw [abs_value]
  exact mul_le_mul (by linarith) hpow (by positivity) (by norm_num)

/-- From zero on the exponent gives a whole number. -/
theorem value_of_nonneg (h : 0 ≤ b.exponent) :
    b.value = (b.signed * (2 ^ b.exponent.toNat : ℕ) : ℤ) := by
  rw [value, Int.cast_mul, Int.cast_natCast, Nat.cast_pow, Nat.cast_ofNat, ← zpow_natCast,
    Int.toNat_of_nonneg h]

/-- Below zero the exponent gives a fraction. -/
theorem value_of_neg (h : b.exponent < 0) :
    b.value = b.signed / (2 ^ (-b.exponent).toNat : ℕ) := by
  rw [value, Nat.cast_pow, Nat.cast_ofNat, ← zpow_natCast, Int.toNat_of_nonneg (by omega), zpow_neg,
    div_inv_eq_mul]

/-- Rounding down is exact. -/
theorem floor_eq (b : Binary) : b.floor = ⌊b.value⌋ := by
  rw [floor, roundBy]
  split
  · rw [value_of_nonneg ‹_›, Int.floor_intCast]
    rfl
  · rw [value_of_neg (not_le.1 ‹_›), Rat.floor_intCast_div_natCast]
    exact Int.fdiv_eq_ediv_of_nonneg _ (Int.natCast_nonneg _)

end Decimal.Binary

/-! ## Unpacked doubles -/

namespace Numeric

open Float.Model Float.Model.UnpackedFloat

/-- The parts of an unpacked double that is finite. -/
def binaryOf? : UnpackedFloat → Option Binary
  | .finite s m e _ => some ⟨s == .negative, m, e⟩
  | .zero s => some ⟨s == .negative, 0, -1074⟩
  | _ => none

/-- The sign of parts. -/
def toSign (negative : Bool) : Sign := if negative then .negative else .positive

/-- The unpacked double of parts. -/
def unpackedOf (b : Binary) : UnpackedFloat :=
  if h : b.mantissa = 0 then .zero (toSign b.negative)
  else .finite (toSign b.negative) b.mantissa b.exponent (Nat.pos_of_ne_zero h)

theorem toSign_beq (negative : Bool) : (toSign negative == .negative) = negative := by
  cases negative <;> rfl

variable {x : Float} {b : Binary}

theorem binaryOf?_unpackedOf (h : b.Canonical) : binaryOf? (unpackedOf b) = some b := by
  obtain ⟨negative, m, e⟩ := b
  rw [unpackedOf]
  split
  · have hm : m = 0 := ‹_›
    obtain rfl : e = -1074 := h.leading.resolve_left (by dsimp only; omega)
    rw [binaryOf?, toSign_beq, hm]
  · rw [binaryOf?, toSign_beq]

theorem toNat_unpackMantissa (v : BitVec 64) :
    (@unpackMantissa .binary64 v).toNat = v.toNat % 2 ^ 52 := by
  rw [unpackMantissa_def, BitVec.extractLsb'_toNat, Nat.shiftRight_zero]

theorem toNat_unpackExponent (v : BitVec 64) :
    (@unpackExponent .binary64 v).toNat = v.toNat / 2 ^ 52 % 2 ^ 11 := by
  rw [unpackExponent_def, BitVec.extractLsb'_toNat, Nat.shiftRight_eq_div_pow]

theorem toNat_unpackSign (v : BitVec 64) :
    (@unpackSign .binary64 v).toNat = v.toNat / 2 ^ 63 := by
  rw [unpackSign_def, BitVec.extractLsb'_toNat, Nat.shiftRight_eq_div_pow]
  exact Nat.mod_eq_of_lt (Nat.div_lt_of_lt_mul v.isLt)

theorem toNat_leading_append {n : Nat} (w : BitVec n) : (1#1 ++ w).toNat = 2 ^ n + w.toNat := by
  rw [BitVec.toNat_append, ← Nat.shiftLeft_add_eq_or_of_lt w.isLt, BitVec.toNat_ofNat,
    Nat.one_shiftLeft]

/-- The parts of a double are those of the unpacked double. -/
theorem ofFloat?_eq (x : Float) : Binary.ofFloat? x = binaryOf? x.toModel.unpack := by
  have hbits : x.toBits.toNat = x.toModel.toBits.toBitVec.toNat := rfl
  rw [Float.Model.unpack, Binary.ofFloat?, hbits]
  generalize x.toModel.toBits.toBitVec = v
  have hleading : Binary.leadingBit = 2 ^ 52 := rfl
  have hbias : Format.binary64.exponentBias = 1023 := rfl
  have hexponent := toNat_unpackExponent v
  have hmantissa := toNat_unpackMantissa v
  have hsign : (Sign.ofBitVec (@unpackSign .binary64 v) == .negative) =
      decide (2048 ≤ v.toNat / 2 ^ 52) := by
    have htoNat := toNat_unpackSign v
    have hlt := v.isLt
    rw [Sign.ofBitVec]
    split
    · have hzero : v.toNat / 2 ^ 63 = 0 := htoNat ▸ congrArg BitVec.toNat ‹_›
      exact (decide_eq_false (by omega)).symm
    · have hne : v.toNat / 2 ^ 63 ≠ 0 := by
        rw [← htoNat]
        exact mt (BitVec.eq_of_toNat_eq (y := 0#1)) ‹_›
      exact (decide_eq_true (by omega)).symm
  have hones : @unpackExponent .binary64 v = -1#_ ↔ v.toNat / 2 ^ 52 % 2 ^ 11 = 2047 := by
    rw [← hexponent, ← BitVec.toNat_inj]
    rfl
  have hzeros : @unpackExponent .binary64 v = 0#_ ↔ v.toNat / 2 ^ 52 % 2 ^ 11 = 0 := by
    rw [← hexponent, ← BitVec.toNat_inj]
    rfl
  rw [UnpackedFloat.unpack, hleading, ← hsign]
  split
  · rw [if_pos (hones.2 ‹_›)]
    split <;> rfl
  · rw [if_neg (mt hones.1 ‹_›)]
    split
    · rw [if_pos (hzeros.2 ‹_›)]
      have hfield : v.toNat / 2 ^ 52 % 2 ^ 11 = 0 := ‹_›
      split
      · have hzero : v.toNat % 2 ^ 52 = 0 := hmantissa ▸ congrArg BitVec.toNat ‹_›
        rw [hzero, binaryOf?]
      · rw [binaryOf?, hmantissa, hexponent, hfield, hbias]
        rfl
    · rw [if_neg (mt hzeros.1 ‹_›), binaryOf?, toNat_leading_append, hmantissa, hexponent, hbias]
      rfl

theorem isFinite_eq_isSome (x : Float) : x.isFinite = (Binary.ofFloat? x).isSome := by
  rw [ofFloat?_eq]
  show x.toModel.unpack.isFinite = _
  cases x.toModel.unpack <;> rfl

/-- The parts of a double are canonical. -/
theorem canonical_of_ofFloat? (h : Binary.ofFloat? x = some b) : b.Canonical := by
  have hlt := x.toBits.toNat_lt
  have hleading : Binary.leadingBit = 2 ^ 52 := rfl
  rw [Binary.ofFloat?, hleading] at h
  split at h
  · cases h
  · split at h <;>
    · cases h
      constructor <;> dsimp only <;> omega

/-! ## Packing -/

theorem unpack_pack_subnormal {s : Sign} {m : Nat} (h0 : 0 < m) (h : m < 2 ^ 52) :
    (Float.Model.pack (.finite s m (-1074) h0)).unpack = .finite s m (-1074) h0 := by
  have hlog : m.log2 < 52 := (Nat.log2_lt h0.ne').2 h
  have hbits : Format.binary64.mantissaBits = 53 := rfl
  have hm : (BitVec.ofNat 52 m).toNat = m := by
    rw [BitVec.toNat_ofNat]
    exact Nat.mod_eq_of_lt h
  have hne : BitVec.ofNat 52 m ≠ 0#52 := fun heq => by
    have := congrArg BitVec.toNat heq
    rw [hm] at this
    exact h0.ne' this
  rw [Float.Model.unpack, Float.Model.pack]
  simp only [UnpackedFloat.pack]
  rw [if_neg (by decide), if_neg (by omega)]
  simp only [UnpackedFloat.unpack, unpackExponent_packComponents, unpackMantissa_packComponents,
    unpackSign_packComponents, Sign.ofBitVec_toBitVec]
  rw [if_neg (by decide), if_true, dif_neg hne, finite.injEq, hm]
  exact ⟨rfl, rfl, rfl⟩

theorem unpack_pack_unpackedOf (h : b.Canonical) :
    (Float.Model.pack (unpackedOf b)).unpack = unpackedOf b := by
  obtain ⟨hlt, hleast, hgreatest, hleading⟩ := h
  rw [unpackedOf]
  split
  · exact unpack_packedZero
  · by_cases hm : 2 ^ 52 ≤ b.mantissa
    · exact (Normal.mk hm hlt hleast hgreatest).unpack_pack_eq le_rfl le_rfl
    · obtain ⟨negative, m, e⟩ := b
      obtain rfl : e = -1074 := hleading.resolve_left hm
      exact unpack_pack_subnormal _ (not_le.1 hm)

/-- Canonical parts are those of a double. -/
theorem ofFloat?_pack (h : b.Canonical) :
    Binary.ofFloat? (.ofModel (Float.Model.pack (unpackedOf b))) = some b := by
  rw [ofFloat?_eq]
  show binaryOf? (Float.Model.pack (unpackedOf b)).unpack = some b
  rw [unpack_pack_unpackedOf h, binaryOf?_unpackedOf h]

/-- The unpacked double of a double's parts. -/
theorem unpack_eq (h : Binary.ofFloat? x = some b) : x.toModel.unpack = unpackedOf b := by
  rw [ofFloat?_eq] at h
  cases hx : x.toModel.unpack with
  | finite s m e hm =>
    rw [hx] at h
    cases h
    rw [unpackedOf, dif_neg hm.ne']
    cases s <;> rfl
  | zero s =>
    rw [hx] at h
    cases h
    cases s <;> rfl
  | _ =>
    rw [hx] at h
    cases h

theorem ofFloat?_neg (h : Binary.ofFloat? x = some b) : Binary.ofFloat? (-x) = some b.neg := by
  have hneg : -x = .ofModel (Float.Model.pack (unpackedOf b.neg)) := by
    show Float.ofModel (Float.Model.pack x.toModel.unpack.neg) = _
    rw [unpack_eq h]
    congr 2
    obtain ⟨negative, m, e⟩ := b
    rw [unpackedOf, unpackedOf, Binary.neg]
    dsimp only
    split <;> cases negative <;> rfl
  rw [hneg]
  exact ofFloat?_pack (canonical_of_ofFloat? h).neg

end Numeric

end Assessment
