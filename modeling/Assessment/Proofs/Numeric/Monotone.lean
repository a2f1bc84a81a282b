import Assessment.Proofs.Numeric.Nearest
import Assessment.Proofs.Numeric.Order

/-!
# Integers in the order of their doubles

Shifting to 53 digits and rounding keep the order of what they are applied to, and so does the
double of an integer: it is not above the double of a greater integer, though different integers
beyond 53 digits may have one double. Zero has a double of its own.

This is what the comparisons, max and min rest on where integers and floats meet: widening may join
two integers, but never turns them round.

* `weight_shiftRight_le`, `roundedMantissa_le_of_weight`: shifting and rounding keep the order.
* `rank_roundWithAccuracy_le`: so does the rounding of digits at one exponent.
* `toFloat_le_toFloat`: the double of an integer is not above that of a greater one.
* `zero_lt_toFloat_iff`: an integer is above zero exactly when its double is.
-/

namespace Assessment.Numeric

open Float.Model Float.Model.UnpackedFloat

variable {m n : Nat} {x : Int} {em en : ExtendedMantissa} {r t : Rank}

/-! ## Shifting and rounding -/

/-- The digits that are kept, the one after them and whether others were lost, in this order. -/
def weight (em : ExtendedMantissa) : Nat :=
  4 * em.mantissa + 2 * em.roundBit.toNat + em.stickyBit.toNat

theorem weight_ofMantissa (m : Nat) :
    weight (ExtendedMantissa.ofMantissaAndAccuracy m .exact) = 4 * m := rfl

theorem weight_shiftRightOne (em : ExtendedMantissa) :
    weight em.shiftRightOne = 2 * em.mantissa + (em.roundBit || em.stickyBit).toNat := by
  have hbit : (em.mantissa % 2 != 0).toNat = em.mantissa % 2 := by
    rcases Nat.mod_two_eq_zero_or_one em.mantissa with h | h <;> rw [h] <;> rfl
  rw [weight, ExtendedMantissa.shiftRightOne, hbit]
  dsimp only
  omega

theorem weight_shiftRightOne_le (h : weight em ≤ weight en) :
    weight em.shiftRightOne ≤ weight en.shiftRightOne := by
  rw [weight_shiftRightOne, weight_shiftRightOne]
  obtain ⟨m, r, t⟩ := em
  obtain ⟨n, u, v⟩ := en
  cases r <;> cases t <;> cases u <;> cases v <;> simp [weight] at h ⊢ <;> omega

theorem weight_shiftRight_le (h : weight em ≤ weight en) (k : Nat) :
    weight (em >>> k) ≤ weight (en >>> k) := by
  induction k with
  | zero => exact h
  | succ k ih => exact weight_shiftRightOne_le ih

theorem roundedMantissa_le_of_weight (h : weight em ≤ weight en) :
    em.roundedMantissa ≤ en.roundedMantissa := by
  obtain ⟨m, r, t⟩ := em
  obtain ⟨n, u, v⟩ := en
  cases r <;> cases t <;> cases u <;> cases v <;>
    simp [weight, ExtendedMantissa.roundedMantissa, ExtendedMantissa.accuracy,
      Accuracy.roundToNearestEven] at h ⊢ <;> omega

/-- Rounding at one exponent keeps the order: more digits before it make the exponent greater, and a
carry stays within the next one. -/
theorem rank_roundWithAccuracy_le (hm : 2 ^ 52 ≤ m) (hmn : m ≤ n) (hx : -1074 ≤ x) :
    unpackedRank (roundWithAccuracy .binary64 .positive m x .exact) ≤
      unpackedRank (roundWithAccuracy .binary64 .positive n x .exact) := by
  obtain ⟨p, e, hp, heq, hcase⟩ := exists_roundWithAccuracy_eq hm hx .positive
  obtain ⟨q, f, hq, hfeq, hcase'⟩ := exists_roundWithAccuracy_eq (hm.trans hmn) hx .positive
  have hlow := (roundedDigits_mem hm).1
  have hlow' := (roundedDigits_mem (hm.trans hmn)).1
  have hlog : m.log2 ≤ n.log2 := by
    rw [Nat.log2_eq_log_two, Nat.log2_eq_log_two]
    exact Nat.log_mono_right hmn
  have hdigits : m.log2 = n.log2 → roundedDigits m ≤ roundedDigits n := fun h => by
    refine roundedMantissa_le_of_weight (h ▸ weight_shiftRight_le ?_ _)
    rw [weight_ofMantissa, weight_ofMantissa]
    omega
  have hlog52 : 52 ≤ m.log2 := (Nat.le_log2 (by omega)).2 hm
  rw [heq, hfeq, unpackedRank, unpackedRank]
  refine Prod.Lex.toLex_le_toLex.2 (.inr ⟨rfl, Prod.Lex.toLex_le_toLex.2 ?_⟩)
  dsimp only
  omega

/-! ## Natural numbers -/

/-- The rank of zero, of either sign. -/
def zeroRank : Rank := toLex (0, toLex (0, 0))

theorem rank_ofNat_zero : rank (Float.ofNat 0) = zeroRank := rfl

/-- The double of a natural number other than zero is above zero. -/
theorem zeroRank_lt_rank_ofNat (h0 : 0 < n) (h : n < 2 ^ 64) : zeroRank < rank (Float.ofNat n) := by
  rw [rank, unpack_ofNat h0 h]
  have hnormal := normal_round h0 h .positive
  generalize UnpackedFloat.round .binary64 .positive n 0 = a at hnormal ⊢
  obtain ⟨hm, hm', hx, hx'⟩ := hnormal
  exact Prod.Lex.toLex_lt_toLex.2 (.inl Int.zero_lt_one)

theorem zeroRank_le_rank_ofNat (h : n < 2 ^ 64) : zeroRank ≤ rank (Float.ofNat n) := by
  rcases Nat.eq_zero_or_pos n with rfl | h0
  · exact rank_ofNat_zero.ge
  · exact (zeroRank_lt_rank_ofNat h0 h).le

theorem rank_ofNat_le (hmn : m ≤ n) (h : n < 2 ^ 64) :
    rank (Float.ofNat m) ≤ rank (Float.ofNat n) := by
  rcases Nat.eq_zero_or_pos m with rfl | h0
  · exact rank_ofNat_zero.le.trans (zeroRank_le_rank_ofNat h)
  -- Both are rounded with the same zeros after them.
  rw [rank, rank, unpack_ofNat h0 (by omega), unpack_ofNat (by omega) h,
    round_eq h0 (k := 52) (by decide) (by decide),
    round_eq (h0.trans_le hmn) (k := 52) (by decide) (by decide)]
  refine rank_roundWithAccuracy_le ?_ (Nat.mul_le_mul_right _ hmn) (by decide)
  exact Nat.le_mul_of_pos_left _ h0

/-! ## Integers -/

/-- The rank of the opposite. -/
def oppositeRank (r : Rank) : Rank :=
  toLex (-(ofLex r).1, toLex (-(ofLex (ofLex r).2).1, -(ofLex (ofLex r).2).2))

theorem unpackedRank_neg (a : UnpackedFloat) :
    unpackedRank a.neg = oppositeRank (unpackedRank a) := by
  cases a with
  | notANumber => rfl
  | infinity s | zero s => cases s <;> rfl
  | finite s m e => cases s <;> simp [UnpackedFloat.neg, unpackedRank, oppositeRank]

theorem oppositeRank_le_oppositeRank (h : r ≤ t) :
    oppositeRank t ≤ oppositeRank r := by
  rw [Prod.Lex.le_iff, Prod.Lex.le_iff] at h
  refine Prod.Lex.toLex_le_toLex.2 ?_
  dsimp only
  rw [Prod.Lex.toLex_le_toLex]
  omega

theorem rank_ofInt_negSucc (h : n + 1 < 2 ^ 64) :
    rank (Float.ofInt (.negSucc n)) = oppositeRank (rank (Float.ofNat (n + 1))) := by
  have hnormal := normal_round n.succ_pos h .positive
  show unpackedRank (Float.Model.pack (Float.ofNat (n + 1)).toModel.unpack.neg).unpack = _
  rw [rank, unpack_ofNat n.succ_pos h, hnormal.neg.unpack_pack_eq (by decide) (by decide),
    unpackedRank_neg]

theorem rank_ofInt_le {m n : Int} (hmn : m ≤ n) (hm : m.natAbs < 2 ^ 64) (hn : n.natAbs < 2 ^ 64) :
    rank (Float.ofInt m) ≤ rank (Float.ofInt n) := by
  cases m with
  | ofNat m =>
    cases n with
    | ofNat n => exact rank_ofNat_le (Int.ofNat_le.1 hmn) hn
    | negSucc n =>
      exact absurd (Int.negSucc_lt_zero n) (not_lt.2 ((Int.natCast_nonneg m).trans hmn))
  | negSucc m =>
    rw [rank_ofInt_negSucc hm]
    cases n with
    | ofNat n =>
      have hzero := oppositeRank_le_oppositeRank (zeroRank_le_rank_ofNat hm)
      exact hzero.trans (zeroRank_le_rank_ofNat hn)
    | negSucc n =>
      rw [rank_ofInt_negSucc hn]
      exact oppositeRank_le_oppositeRank (rank_ofNat_le (by omega) hm)

theorem natAbs_toInt_lt (i : Int64) : i.toInt.natAbs < 2 ^ 64 := by
  have h₁ := i.le_toInt
  have h₂ := i.toInt_lt
  omega

/-- **The double of an integer keeps the order**: it is not above that of a greater integer. -/
theorem toFloat_le_toFloat {i j : Int64} (h : i.toInt ≤ j.toInt) : toFloat i ≤ toFloat j := by
  have hfinite (k : Int64) := float_isNaN_of_isFinite (isFinite_toFloat k)
  have hrank := rank_ofInt_le h (natAbs_toInt_lt i) (natAbs_toInt_lt j)
  exact float_le_iff.2 ⟨hfinite i, hfinite j, hrank⟩

/-- An integer is above zero exactly when its double is. -/
theorem zero_lt_toFloat_iff (i : Int64) : 0.0 < toFloat i ↔ 0 < i.toInt := by
  have hnan := float_isNaN_of_isFinite (isFinite_toFloat i)
  constructor
  · intro h
    by_contra hle
    have hzero : toFloat i ≤ 0.0 := toFloat_le_toFloat (j := 0) (not_lt.1 hle)
    exact float_lt_irrefl _ (float_lt_of_lt_of_le h hzero)
  · intro h
    obtain ⟨n, hn⟩ := Int.eq_ofNat_of_zero_le h.le
    have hlt := natAbs_toInt_lt i
    have hrank : zeroRank < rank (Float.ofNat n) := zeroRank_lt_rank_ofNat (by omega) (by omega)
    refine float_lt_iff.2 ⟨rfl, hnan, ?_⟩
    rw [toFloat, hn]
    exact hrank

end Assessment.Numeric
