import Assessment.Proofs.Numeric.Finite

/-!
# The double nearest to an integer

A natural number other than zero becomes a double by rounding to 53 digits: a shift that keeps one
digit more and whether others were lost, and a rounding on these, with ties to the even neighbour.
Below 2 to the power 53 the double is computed as a product with one, from there on as a number in
decimal form. Neither makes a difference: rounding looks at the value alone and keeps a number that
has 53 digits, and so do packing and unpacking.

The conversion of an integer to a double stands in `Num::as_f64`, in the widening of `conform` and
in the statistics.

* `Normal`: an unpacked double with 53 digits, a sign and an exponent within bounds.
* `exists_roundWithAccuracy_eq`: what a number with 53 digits or more is rounded to.
* `roundWithAccuracy_mul_two_pow`: zeros at the end make no difference.
* `Normal.unpack_pack_eq`: a number with 53 digits is packed and unpacked without loss.
* `unpack_ofNat`: the double of a natural number is the number rounded.
-/

namespace Assessment.Numeric

open Float.Model Float.Model.UnpackedFloat

/-- A number of a sign with exactly 53 binary digits, times a power of two from `d` to `e`. -/
inductive Normal (s : Sign) (d e : Int) : UnpackedFloat → Prop
  | mk {m : Nat} {x : Int} {hm : 0 < m} :
      2 ^ 52 ≤ m → m < 2 ^ 53 → d ≤ x → x ≤ e → Normal s d e (.finite s m x hm)

variable {k m n : Nat} {d e x : Int} {s : Sign} {a : UnpackedFloat} {em : ExtendedMantissa}

theorem Normal.neg (h : Normal s d e a) : Normal (-s) d e a.neg := by
  obtain ⟨hm, hm', hx, hx'⟩ := h
  exact .mk hm hm' hx hx'

/-! ## Shifting -/

theorem mantissa_shiftRight (em : ExtendedMantissa) (n : Nat) :
    (em >>> n).mantissa = em.mantissa / 2 ^ n := by
  induction n with
  | zero => exact (Nat.div_one _).symm
  | succ n ih =>
    show (em >>> n).mantissa / 2 = _
    rw [ih, Nat.div_div_eq_div_mul, Nat.pow_succ]

theorem shiftRight_add (em : ExtendedMantissa) (j k : Nat) : em >>> (j + k) = em >>> j >>> k := by
  induction k with
  | zero => rfl
  | succ k ih => exact congrArg ExtendedMantissa.shiftRightOne ih

theorem shiftRightOne_ofMantissa_double (m : Nat) :
    (ExtendedMantissa.ofMantissaAndAccuracy (m * 2) .exact).shiftRightOne =
      ExtendedMantissa.ofMantissaAndAccuracy m .exact := by
  simp [ExtendedMantissa.ofMantissaAndAccuracy, ExtendedMantissa.shiftRightOne]

/-- Zeros at the end are shifted out without a trace. -/
theorem ofMantissa_mul_two_pow_shiftRight (m k : Nat) :
    ExtendedMantissa.ofMantissaAndAccuracy (m * 2 ^ k) .exact >>> k =
      ExtendedMantissa.ofMantissaAndAccuracy m .exact := by
  induction k with
  | zero => rw [Nat.pow_zero, Nat.mul_one]; rfl
  | succ k ih =>
    rw [Nat.pow_succ, ← Nat.mul_assoc, Nat.add_comm, shiftRight_add, ← ih]
    exact congrArg (fun em : ExtendedMantissa => em >>> k) (shiftRightOne_ofMantissa_double _)

theorem log2_mul_two_pow (hm : 0 < m) (k : Nat) : (m * 2 ^ k).log2 = m.log2 + k := by
  have hpos := Nat.two_pow_pos k
  refine (Nat.log2_eq_iff (Nat.mul_pos hm hpos).ne').2 ⟨?_, ?_⟩
  · rw [Nat.pow_add]
    exact Nat.mul_le_mul_right _ (Nat.log2_self_le hm.ne')
  · rw [Nat.add_right_comm, Nat.pow_add]
    exact Nat.mul_lt_mul_of_pos_right Nat.lt_log2_self hpos

/-- A number of 53 or more digits is shifted to the exponent of a double by the digits beyond 53. -/
theorem shiftToTargetExponent_eq (hm : 2 ^ 52 ≤ m) (hx : -1074 ≤ x) (c : Accuracy) :
    shiftToTargetExponent .binary64 m x c =
      (ExtendedMantissa.ofMantissaAndAccuracy m c >>> (m.log2 - 52), x + (m.log2 - 52 : Nat)) := by
  have hlog : 52 ≤ m.log2 := (Nat.le_log2 (by omega)).2 hm
  have hshift : (Format.binary64.targetExponent (totalExponent m x) - x).toNat = m.log2 - 52 := by
    simp only [Format.targetExponent, totalExponent, Format.mantissaBits, Format.minExponent]
    norm_num
    omega
  rw [shiftToTargetExponent, shiftToExponent, hshift]

/-- A shift to the exponent of a double leaves a number of 53 or more digits with 53 of them. -/
theorem shiftToTargetExponent_normal (hm : 2 ^ 52 ≤ m) (hx : -1074 ≤ x) (c : Accuracy) :
    (2 ^ 52 ≤ (shiftToTargetExponent .binary64 m x c).1.mantissa ∧
      (shiftToTargetExponent .binary64 m x c).1.mantissa < 2 ^ 53) ∧
      (shiftToTargetExponent .binary64 m x c).2 = x + (m.log2 - 52 : Nat) := by
  have hlog : 52 ≤ m.log2 := (Nat.le_log2 (by omega)).2 hm
  rw [shiftToTargetExponent_eq hm hx]
  simp only [mantissa_shiftRight, mantissa_ofMantissaAndAccuracy, and_true]
  constructor
  · rw [Nat.le_div_iff_mul_le (by positivity), ← Nat.pow_add, Nat.add_sub_cancel' hlog]
    exact Nat.log2_self_le (by omega)
  · rw [Nat.div_lt_iff_lt_mul (by positivity), ← Nat.pow_add]
    have h : 53 + (m.log2 - 52) = m.log2 + 1 := by omega
    rw [h]
    exact Nat.lt_log2_self

/-! ## Rounding -/

theorem le_roundedMantissa (em : ExtendedMantissa) : em.mantissa ≤ em.roundedMantissa := by
  obtain ⟨m, roundBit, stickyBit⟩ := em
  cases roundBit <;> cases stickyBit <;>
    simp only [ExtendedMantissa.roundedMantissa, ExtendedMantissa.accuracy,
      Accuracy.roundToNearestEven] <;> omega

/-- A number rounded to 53 digits, or to 54 where the rounding carries. -/
def roundedDigits (m : Nat) : Nat :=
  (ExtendedMantissa.ofMantissaAndAccuracy m .exact >>> (m.log2 - 52)).roundedMantissa

theorem roundedDigits_mem (hm : 2 ^ 52 ≤ m) :
    2 ^ 52 ≤ roundedDigits m ∧ roundedDigits m ≤ 2 ^ 53 := by
  obtain ⟨⟨hlow, hhigh⟩, -⟩ := shiftToTargetExponent_normal hm (x := 0) (by decide) .exact
  rw [shiftToTargetExponent_eq hm (by decide)] at hlow hhigh
  exact ⟨hlow.trans (le_roundedMantissa _), (roundedMantissa_le _).trans hhigh⟩

/-- What a number with 53 digits or more is rounded to; a carry into one more digit makes it a power
of two. -/
theorem exists_roundWithAccuracy_eq (hm : 2 ^ 52 ≤ m) (hx : -1074 ≤ x) (s : Sign) :
    ∃ (n : Nat) (e : Int) (hn : 0 < n),
      roundWithAccuracy .binary64 s m x .exact = .finite s n e hn ∧
      (e = x + (m.log2 - 52 : Nat) ∧ n = roundedDigits m ∧ n < 2 ^ 53 ∨
        e = x + (m.log2 - 52 : Nat) + 1 ∧ n = 2 ^ 52 ∧ roundedDigits m = 2 ^ 53) := by
  obtain ⟨hlow, hhigh⟩ := roundedDigits_mem hm
  have hx' : -1074 ≤ x + (m.log2 - 52 : Nat) := by omega
  have hmantissa : (ExtendedMantissa.ofMantissaAndAccuracy (roundedDigits m) .exact >>>
      ((roundedDigits m).log2 - 52)).mantissa =
        roundedDigits m / 2 ^ ((roundedDigits m).log2 - 52) := by
    rw [mantissa_shiftRight, mantissa_ofMantissaAndAccuracy]
  rw [roundWithAccuracy, shiftToTargetExponent_eq hm hx]
  dsimp only
  rw [← roundedDigits, shiftToTargetExponent_eq hlow hx']
  dsimp only
  rcases hhigh.lt_or_eq with hlt | heq
  · rw [(Nat.log2_eq_iff (by omega)).2 ⟨hlow, hlt⟩, Nat.sub_self, Nat.pow_zero,
      Nat.div_one] at hmantissa
    rw [(Nat.log2_eq_iff (by omega)).2 ⟨hlow, hlt⟩, Nat.sub_self, dif_neg (by omega)]
    exact ⟨_, _, _, rfl, .inl ⟨by simp, hmantissa, by omega⟩⟩
  · rw [heq, Nat.log2_two_pow] at hmantissa
    rw [heq, Nat.log2_two_pow, dif_neg (by omega)]
    exact ⟨_, _, _, rfl, .inr ⟨rfl, hmantissa, rfl⟩⟩

/-- Rounding looks at the value alone. -/
theorem roundWithAccuracy_mul_two_pow (hm : 2 ^ 52 ≤ m) (hx : -1074 ≤ x - k) (s : Sign) :
    roundWithAccuracy .binary64 s (m * 2 ^ k) (x - k) .exact =
      roundWithAccuracy .binary64 s m x .exact := by
  have hle : m ≤ m * 2 ^ k := Nat.le_mul_of_pos_right _ (Nat.two_pow_pos k)
  have hlog : 52 ≤ m.log2 := (Nat.le_log2 (by omega)).2 hm
  have hfirst : shiftToTargetExponent .binary64 (m * 2 ^ k) (x - k) .exact =
      shiftToTargetExponent .binary64 m x .exact := by
    have hshift : m.log2 + k - 52 = k + (m.log2 - 52) := by omega
    rw [shiftToTargetExponent_eq (hm.trans hle) hx, shiftToTargetExponent_eq hm (by omega),
      log2_mul_two_pow (by omega), hshift, shiftRight_add, ofMantissa_mul_two_pow_shiftRight]
    congr 1
    omega
  rw [roundWithAccuracy, hfirst, roundWithAccuracy]

/-- A number with 53 digits is kept. -/
theorem roundWithAccuracy_of_normal (hm : 2 ^ 52 ≤ m) (hm' : m < 2 ^ 53) (hx : -1074 ≤ x)
    (s : Sign) (hpos : 0 < m) :
    roundWithAccuracy .binary64 s m x .exact = .finite s m x hpos := by
  have hlog : m.log2 = 52 := (Nat.log2_eq_iff (by omega)).2 ⟨hm, hm'⟩
  have hdigits : roundedDigits m = m := by
    rw [roundedDigits, hlog]
    rfl
  obtain ⟨n, e, hn, heq, hcase⟩ := exists_roundWithAccuracy_eq hm hx s
  rw [hlog, hdigits] at hcase
  obtain ⟨rfl, rfl, -⟩ := hcase.resolve_right (by omega)
  rw [heq]
  simp

/-! ## Doubles -/

theorem two_pow_le_toNat_append {n : Nat} (w : BitVec n) : 2 ^ n ≤ (1#1 ++ w).toNat := by
  rw [BitVec.toNat_append, ← Nat.one_shiftLeft]
  exact Nat.left_le_or

/-- With an exponent that has a bit set and a bit clear, a double is a number with all digits. -/
theorem unpack_packComponents {f : Format} {v : BitVec f.exponentBits}
    {w : BitVec f.mantissaBitsWithoutImplicit} (h0 : v ≠ 0#_) (h1 : v ≠ -1#_) :
    UnpackedFloat.unpack f (packComponents f s v w) =
      .finite s (1#1 ++ w).toNat
        ((v.toNat : Int) - (f.exponentBias + f.mantissaBitsWithoutImplicit))
        ((Nat.two_pow_pos _).trans_le (two_pow_le_toNat_append w)) := by
  simp only [UnpackedFloat.unpack, unpackExponent_packComponents, unpackMantissa_packComponents,
    unpackSign_packComponents, Sign.ofBitVec_toBitVec, if_neg h1, if_neg h0]

theorem toNat_append_ofNat (hm : 2 ^ 52 ≤ m) (hm' : m < 2 ^ 53) :
    (1#1 ++ BitVec.ofNat 52 m).toNat = m := by
  rw [BitVec.toNat_append, BitVec.toNat_ofNat, BitVec.toNat_ofNat,
    ← Nat.shiftLeft_add_eq_or_of_lt (Nat.mod_lt _ (by positivity))]
  omega

/-- A number with 53 digits and an exponent in the range of a double is one. -/
theorem Normal.unpack_pack_eq (h : Normal s d e a) (hd : -1074 ≤ d) (he : e ≤ 971) :
    (Float.Model.pack a).unpack = a := by
  cases h with
  | @mk m x hpos hm hm' hx hx' =>
    have hlog : m.log2 + 1 = Format.binary64.mantissaBits := by
      have := (Nat.log2_eq_iff (k := 52) (by omega)).2 ⟨hm, hm'⟩
      rw [this]
      rfl
    obtain ⟨n, hn⟩ : ∃ n, (x + (1023 : Nat) + (52 : Nat)).toNat = n := ⟨_, rfl⟩
    have hbias : Format.binary64.exponentBias = 1023 := rfl
    rw [Float.Model.unpack, Float.Model.pack]
    simp only [UnpackedFloat.pack, hbias]
    rw [hn, if_neg (by norm_num; omega), if_pos hlog]
    have hv : (BitVec.ofNat 11 n).toNat = n := by
      rw [BitVec.toNat_ofNat]
      exact Nat.mod_eq_of_lt (by omega)
    have hne {k : Nat} (hk : n ≠ k) (hk' : k < 2 ^ 11) : BitVec.ofNat 11 n ≠ BitVec.ofNat 11 k := by
      intro h
      have := congrArg BitVec.toNat h
      rw [hv, BitVec.toNat_ofNat, Nat.mod_eq_of_lt hk'] at this
      exact hk this
    refine (unpack_packComponents (hne (k := 0) (by omega) (by decide))
      (hne (k := 2047) (by omega) (by decide))).trans ?_
    rw [finite.injEq, hv]
    exact ⟨rfl, toNat_append_ofNat hm hm', show (n : Int) - (1023 + 52) = x by omega⟩

/-! ## Natural numbers -/

theorem Normal.mul_one (h : Normal s d e a) (hd : -1022 ≤ d) {one : UnpackedFloat}
    (hone : one = .finite .positive (2 ^ 52) (-52) (by decide)) :
    UnpackedFloat.mul .binary64 a one = a := by
  subst hone
  cases h with
  | @mk m x hpos hm hm' hx hx' =>
    show roundWithAccuracy .binary64 (s * .positive) (m * 2 ^ 52) (x - (52 : Nat)) .exact = _
    rw [roundWithAccuracy_mul_two_pow hm (by omega), roundWithAccuracy_of_normal hm hm' (by omega)]
    cases s <;> rfl

/-- A number is rounded with as many zeros after it as there may be. -/
theorem round_eq (h0 : 0 < m) (hk : 52 ≤ k) (hk' : k ≤ 1074) :
    UnpackedFloat.round .binary64 s m 0 =
      roundWithAccuracy .binary64 s (m * 2 ^ k) (-k) .exact := by
  have hs : (0 - Format.binary64.targetExponent (totalExponent m 0)).toNat = 52 - m.log2 := by
    simp only [Format.targetExponent, totalExponent, Format.mantissaBits, Format.minExponent]
    norm_num
    omega
  obtain ⟨j, hj⟩ : ∃ j, k = 52 - m.log2 + j := ⟨k - (52 - m.log2), by omega⟩
  have hlow : 2 ^ 52 ≤ m * 2 ^ (52 - m.log2) := by
    calc 2 ^ 52 ≤ 2 ^ (m.log2 + (52 - m.log2)) := Nat.pow_le_pow_right (by decide) (by omega)
      _ = 2 ^ m.log2 * 2 ^ (52 - m.log2) := Nat.pow_add ..
      _ ≤ m * 2 ^ (52 - m.log2) := Nat.mul_le_mul_right _ (Nat.log2_self_le h0.ne')
  rw [UnpackedFloat.round, decreaseExponent, hs]
  dsimp only
  rw [Nat.shiftLeft_eq, ← roundWithAccuracy_mul_two_pow (k := j) hlow (by omega), Nat.mul_assoc,
    ← Nat.pow_add, ← hj]
  congr 1
  omega

theorem normal_round (h0 : 0 < m) (hm : m < 2 ^ 64) (s : Sign) :
    Normal s (-52) 64 (UnpackedFloat.round .binary64 s m 0) := by
  have hlog : m.log2 < 64 := (Nat.log2_lt (by omega)).2 hm
  rw [round_eq h0 (k := 52) (by decide) (by decide)]
  obtain ⟨n, e, hn, heq, hcase⟩ := exists_roundWithAccuracy_eq (m := m * 2 ^ 52)
    (Nat.le_mul_of_pos_left _ h0) (x := -52) (by decide) s
  have hdigits := roundedDigits_mem (m := m * 2 ^ 52) (Nat.le_mul_of_pos_left _ h0)
  rw [log2_mul_two_pow h0] at hcase
  refine heq ▸ .mk ?_ ?_ ?_ ?_ <;> omega

theorem unpack_ofUInt64 {n : UInt64} (h : 0 < n.toNat) :
    (Float.Model.ofUInt64 n).unpack = UnpackedFloat.round .binary64 .positive n.toNat 0 := by
  have hround : UnpackedFloat.ofUInt64 .binary64 n =
      UnpackedFloat.round .binary64 .positive n.toNat 0 := by
    rw [UnpackedFloat.ofUInt64, UnpackedFloat.ofNat, UnpackedFloat.ofInt, UnpackedFloat.normalize]
    split
    · rename_i hlt
      exact absurd (Int.compare_eq_lt.1 hlt) (by omega)
    · rename_i heq
      exact absurd (Int.compare_eq_eq.1 heq) (by omega)
    · rfl
  rw [Float.Model.ofUInt64, hround]
  exact (normal_round h n.toNat_lt .positive).unpack_pack_eq (by decide) (by decide)

theorem ofScientific_zero (h0 : 0 < n) :
    UnpackedFloat.ofScientific .binary64 n 0 = UnpackedFloat.round .binary64 .positive n 0 := by
  rw [UnpackedFloat.ofScientific, dif_neg (by omega), if_neg (by decide), if_neg (by norm_num),
    if_pos (Int.le_refl 0), round_eq h0 (k := 53) (by decide) (by decide)]
  show roundWithAccuracy .binary64 .positive (n <<< 53 * 1) (-53) .exact = _
  rw [Nat.shiftLeft_eq, Nat.mul_one]
  rfl

/-- **The double of a natural number** is the number rounded to 53 digits, whether it is computed as
a product with one or as a number in decimal form. -/
theorem unpack_ofNat (h0 : 0 < n) (h : n < 2 ^ 64) :
    (Float.ofNat n).toModel.unpack = UnpackedFloat.round .binary64 .positive n 0 := by
  show (Float.ofScientific n false 0).toModel.unpack = _
  have hnormal := normal_round h0 h .positive
  rw [Float.ofScientific]
  split
  · have hn : n.toUInt64.toNat = n := by
      rw [Nat.toUInt64, UInt64.toNat_ofNat']
      exact Nat.mod_eq_of_lt h
    have hfactor := unpack_ofUInt64 (n := n.toUInt64) (by omega)
    rw [hn] at hfactor
    show (Float.Model.pack (UnpackedFloat.mul .binary64 (Float.Model.ofUInt64 n.toUInt64).unpack
      (Float.ofBits 0x3FF0000000000000).toModel.unpack)).unpack = _
    have hone : (Float.ofBits 0x3FF0000000000000).toModel.unpack =
        .finite .positive (2 ^ 52) (-52) (by decide) := rfl
    rw [hfactor, hnormal.mul_one (by decide) hone]
    exact hnormal.unpack_pack_eq (by decide) (by decide)
  · show (Float.Model.pack (UnpackedFloat.ofScientific .binary64 n 0)).unpack = _
    rw [ofScientific_zero h0]
    exact hnormal.unpack_pack_eq (by decide) (by decide)

end Assessment.Numeric
