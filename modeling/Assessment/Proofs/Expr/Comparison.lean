import Assessment.Proofs.Expr.Membership
import Assessment.Proofs.Expr.ThreeValued
import Assessment.Proofs.Numeric.Equality
import Assessment.Proofs.Numeric.Monotone

/-!
# Comparing numbers

Two integers are compared as integers, and a float with anything as doubles. Both ways put any two
numbers in one order, and a number below a second below a third is below the third: the double of an
integer keeps the order of integers. But integers beyond 53 digits can have one double, so a float
may be equal to two integers that are not equal to each other. That is the one way in which
equality, and with it `lte`, is not carried on from one number to the next.

Comparison is `Num::cmp`, which the operators lt, gt, lte and gte ask and which max, min and exact
equal follow. Section B.4.1 of the specification does not say how an integer is compared with a
float; the way of the program is to widen, and the laws below are those that widening leaves.

* `Number.order`: how two numbers are ordered; `Number.compare?_eq` ties it to the operators.
* `Number.Blurs`: two integers out of order, with a float between them that is equal to both.
* `Number.order_eq_gt_iff`: numbers that go up by steps end lower only where a float blurs.
* `BinaryOp.numbers_compared`: the laws of `lt`, `gt`, `lte`, `gte` and exact `equal`.
-/

namespace Assessment

open Numeric

/-! ## The order of doubles -/

theorem Number.compareFloats?_eq {x y : Float} (hx : x.isNaN = false) (hy : y.isNaN = false) :
    Number.compareFloats? x y = some (compare (Numeric.rank x) (Numeric.rank y)) := by
  have hlt : x < y ↔ Numeric.rank x < Numeric.rank y := by
    rw [float_lt_iff, and_iff_right hx, and_iff_right hy]
  have hgt : y < x ↔ Numeric.rank y < Numeric.rank x := by
    rw [float_lt_iff, and_iff_right hy, and_iff_right hx]
  have heq : (x == y) = true ↔ Numeric.rank x = Numeric.rank y := by
    rw [float_beq_iff, and_iff_right hx, and_iff_right hy]
  rw [compareFloats?]
  simp only [hlt, heq, hgt]
  rcases lt_trichotomy (Numeric.rank x) (Numeric.rank y) with h | h | h
  · rw [if_pos h, compare_lt_iff_lt.2 h]
  · rw [if_neg h.not_lt, if_pos h, compare_eq_iff_eq.2 h]
  · rw [if_neg h.not_gt, if_neg h.ne', if_pos h, compare_gt_iff_gt.2 h]

/-! ## The order of numbers -/

namespace Number

/-- The scalar that holds a number. -/
def toScalar : Number → Scalar
  | integer n => .integer n
  | float x => .float x

/-- A number whose double is finite: any integer, and a finite float. -/
def Finite (a : Number) : Prop := a.toFloat.isFinite = true

instance (a : Number) : Decidable a.Finite := inferInstanceAs (Decidable (_ = _))

/-- The rank of the double of a number. -/
def rank (a : Number) : Rank := Numeric.rank a.toFloat

/-- The order of two numbers: that of the integers when both are, else that of the doubles. -/
def order : Number → Number → Ordering
  | integer i, integer j => compare i.toInt j.toInt
  | a, b => compare a.rank b.rank

variable {a b c : Number}

theorem compare?_eq (ha : a.Finite) (hb : b.Finite) : a.compare? b = some (order a b) := by
  have hdoubles := compareFloats?_eq (float_isNaN_of_isFinite ha) (float_isNaN_of_isFinite hb)
  cases a with
  | float x => exact hdoubles
  | integer i =>
    cases b with
    | float y => exact hdoubles
    | integer j =>
      rw [compare?, order]
      rcases lt_trichotomy i.toInt j.toInt with h | h | h
      · rw [if_pos h, compare_lt_iff_lt.2 h]
      · rw [if_neg h.not_lt, if_neg h.not_gt, compare_eq_iff_eq.2 h]
      · rw [if_neg h.not_gt, if_pos h, compare_gt_iff_gt.2 h]

theorem order_swap (a b : Number) : (order a b).swap = order b a := by
  cases a <;> cases b <;> exact Std.OrientedOrd.eq_swap.symm

/-- Numbers in order have doubles in order. -/
theorem rank_le_of_order_ne_gt (h : order a b ≠ .gt) : a.rank ≤ b.rank := by
  cases a with
  | float x => exact compare_le_iff_le.1 h
  | integer i =>
    cases b with
    | float y => exact compare_le_iff_le.1 h
    | integer j => exact (float_le_iff.1 (toFloat_le_toFloat (compare_le_iff_le.1 h))).2.2

/-- **From below to below**: what is below a number that is below a third is below the third. -/
theorem order_lt_trans (hab : order a b = .lt) (hbc : order b c = .lt) : order a c = .lt := by
  have hab' := rank_le_of_order_ne_gt (hab ▸ nofun : order a b ≠ .gt)
  have hbc' := rank_le_of_order_ne_gt (hbc ▸ nofun : order b c ≠ .gt)
  cases a with
  | float x =>
    refine compare_lt_iff_lt.2 (lt_of_lt_of_le ?_ hbc')
    cases b <;> exact compare_lt_iff_lt.1 hab
  | integer i =>
    cases c with
    | float z =>
      refine compare_lt_iff_lt.2 (lt_of_le_of_lt hab' ?_)
      cases b <;> exact compare_lt_iff_lt.1 hbc
    | integer k =>
      cases b with
      | integer j =>
        exact compare_lt_iff_lt.2 ((compare_lt_iff_lt.1 hab).trans (compare_lt_iff_lt.1 hbc))
      | float y =>
        -- The doubles are apart, so the integers are in order.
        refine compare_lt_iff_lt.2 (not_le.1 fun hle => ?_)
        have hrank := (float_le_iff.1 (toFloat_le_toFloat hle)).2.2
        exact absurd ((compare_lt_iff_lt.1 hab).trans (compare_lt_iff_lt.1 hbc)) (not_lt.2 hrank)

/-- Two integers out of order, and a float between them that is equal to both as a double. -/
def Blurs : Number → Number → Number → Prop
  | integer i, float x, integer k =>
    k.toInt < i.toInt ∧ (Numeric.toFloat i == x) = true ∧ (x == Numeric.toFloat k) = true
  | _, _, _ => False

/-- **Up by steps and yet down**: that happens just where a float blurs two integers. -/
theorem order_eq_gt_iff (hb : b.Finite) (hab : order a b ≠ .gt) (hbc : order b c ≠ .gt) :
    order a c = .gt ↔ Blurs a b c := by
  have hab' := rank_le_of_order_ne_gt hab
  have hbc' := rank_le_of_order_ne_gt hbc
  cases a with
  | float x => exact iff_of_false (compare_le_iff_le.2 (hab'.trans hbc')) id
  | integer i =>
    cases c with
    | float z =>
      exact iff_of_false (compare_le_iff_le.2 (hab'.trans hbc')) (by cases b <;> exact id)
    | integer k =>
      cases b with
      | integer j =>
        refine iff_of_false (compare_le_iff_le.2 ?_) id
        exact (compare_le_iff_le.1 hab).trans (compare_le_iff_le.1 hbc)
      | float y =>
        rw [order, compare_gt_iff_gt, Blurs]
        refine ⟨fun hlt => ⟨hlt, ?_, ?_⟩, And.left⟩
        all_goals
          have hrank := (float_le_iff.1 (toFloat_le_toFloat hlt.le)).2.2
          have hnan (n : Int64) := float_isNaN_of_isFinite (isFinite_toFloat n)
        · exact float_beq_iff.2 ⟨hnan i, float_isNaN_of_isFinite hb,
            le_antisymm hab' (hbc'.trans hrank)⟩
        · exact float_beq_iff.2 ⟨float_isNaN_of_isFinite hb, hnan k,
            le_antisymm hbc' (hrank.trans hab')⟩

theorem order_eq_iff (hb : b.Finite) (hab : order a b = .eq) (hbc : order b c = .eq) :
    order a c = .eq ↔ ¬(Blurs a b c ∨ Blurs c b a) := by
  have hba : order b a ≠ .gt := by
    rw [← order_swap, hab]
    nofun
  have hcb : order c b ≠ .gt := by
    rw [← order_swap, hbc]
    nofun
  have hgt := order_eq_gt_iff hb (hab ▸ nofun : order a b ≠ .gt) (hbc ▸ nofun : order b c ≠ .gt)
  have hlt := order_eq_gt_iff hb hcb hba
  rw [← hgt, ← hlt, ← order_swap a c]
  cases order a c <;> decide

end Number

/-! ## The operators -/

namespace BinaryOp

open Number

variable {op : BinaryOp} {store : Store} {a b c : Number} {tolerance : List FloatAttribute}
  {low high : Bool}

/-- What an operator gives for two numbers. -/
def answer (op : BinaryOp) (store : Store) (a b : Number) : Except Fault Value :=
  op.apply store (.single a.toScalar) (.single b.toScalar)

/-- An operator finds two numbers in its relation. -/
def Holds (op : BinaryOp) (store : Store) (a b : Number) : Prop :=
  op.answer store a b = .ok (.ofBool true)

instance (op : BinaryOp) (store : Store) (a b : Number) : Decidable (op.Holds store a b) :=
  inferInstanceAs (Decidable (_ = _))

theorem isNull_toScalar (a : Number) : (Value.single a.toScalar).isNull = false := by
  cases a <;> rfl

theorem numberOf_toScalar (name : String) (a : Number) :
    numberOf name (.single a.toScalar) = .ok a := by
  cases a <;> rfl

theorem answer_compare (ha : a.Finite) (hb : b.Finite) (q : Comparison) :
    (compare q).answer store a b = .ok (.ofBool (q.accepts (order a b))) := by
  rw [answer, apply, unlessEitherNull_of_isNull_eq_false (isNull_toScalar a) (isNull_toScalar b),
    onNumbers, numberOf_toScalar, numberOf_toScalar]
  simp only [bind, Except.bind, compare?_eq ha hb]
  rfl

theorem equalWithin_exact (ha : a.Finite) (hb : b.Finite) :
    equalWithin Tolerance.exact a b = (order a b == .eq) := by
  have hdoubles (x y : Float) (hx : x.isFinite = true) (hy : y.isFinite = true) :
      (x == y) = (Ord.compare (Numeric.rank x) (Numeric.rank y) == .eq) := by
    rw [Bool.eq_iff_iff, float_beq_iff, and_iff_right (float_isNaN_of_isFinite hx),
      and_iff_right (float_isNaN_of_isFinite hy), beq_iff_eq, compare_eq_iff_eq]
  cases a with
  | float x => exact hdoubles _ _ ha hb
  | integer i =>
    cases b with
    | float y => exact hdoubles _ _ ha hb
    | integer j =>
      show (i == j) = (Ord.compare i.toInt j.toInt == .eq)
      rw [Bool.eq_iff_iff, beq_iff_eq, beq_iff_eq, compare_eq_iff_eq, Int64.toInt_inj]

theorem answer_equal (ha : a.Finite) (hb : b.Finite) :
    (equal .exact tolerance low high).answer store a b = .ok (.ofBool (order a b == .eq)) := by
  rw [answer, apply, unlessEitherNull_of_isNull_eq_false (isNull_toScalar a) (isNull_toScalar b),
    numberOf_toScalar, numberOf_toScalar, ← equalWithin_exact ha hb]
  rfl

theorem holds_compare_iff (ha : a.Finite) (hb : b.Finite) (q : Comparison) :
    (compare q).Holds store a b ↔ q.accepts (order a b) = true := by
  rw [Holds, answer_compare ha hb, Except.ok.injEq, Value.ofBool_inj]

theorem holds_equal_iff (ha : a.Finite) (hb : b.Finite) :
    (equal .exact tolerance low high).Holds store a b ↔ order a b = .eq := by
  rw [Holds, answer_equal ha hb, Except.ok.injEq, Value.ofBool_inj, beq_iff_eq]

/-- **The laws of comparing numbers.** Of any two, each an integer or a finite float, the operators
find exactly one below, equal to or above the other, the weak comparisons are the opposites of the
strict ones, and turning the operands round turns the comparison round. Being below is carried on
from one number to the next, and so are being at most and being equal, except over a float that is
equal to two integers which are not equal to each other. -/
theorem numbers_compared (store : Store) (tolerance : List FloatAttribute) (low high : Bool)
    (ha : a.Finite) (hb : b.Finite) (hc : c.Finite) :
    (∀ op ∈ [compare .lt, compare .gt, compare .lte, compare .gte,
        equal .exact tolerance low high],
      ∃ t, op.answer store a b = .ok (.ofBool t)) ∧
    ((compare .lt).Holds store a b ∧ ¬(equal .exact tolerance low high).Holds store a b ∧
        ¬(compare .gt).Holds store a b ∨
      ¬(compare .lt).Holds store a b ∧ (equal .exact tolerance low high).Holds store a b ∧
        ¬(compare .gt).Holds store a b ∨
      ¬(compare .lt).Holds store a b ∧ ¬(equal .exact tolerance low high).Holds store a b ∧
        (compare .gt).Holds store a b) ∧
    ((compare .lte).Holds store a b ↔ ¬(compare .gt).Holds store a b) ∧
    ((compare .gte).Holds store a b ↔ ¬(compare .lt).Holds store a b) ∧
    ((compare .gt).Holds store a b ↔ (compare .lt).Holds store b a) ∧
    ((compare .lt).Holds store a b → (compare .lt).Holds store b c →
      (compare .lt).Holds store a c) ∧
    ((compare .lte).Holds store a b → (compare .lte).Holds store b c →
      ((compare .lte).Holds store a c ↔ ¬Blurs a b c)) ∧
    ((equal .exact tolerance low high).Holds store a b →
      (equal .exact tolerance low high).Holds store b c →
      ((equal .exact tolerance low high).Holds store a c ↔ ¬(Blurs a b c ∨ Blurs c b a))) := by
  have hswap := order_swap a b
  have hltIff (x y : Number) (hx : x.Finite) (hy : y.Finite) :
      (compare .lt).Holds store x y ↔ order x y = .lt := by
    rw [holds_compare_iff hx hy, Comparison.accepts, beq_iff_eq]
  have hlteIff (x y : Number) (hx : x.Finite) (hy : y.Finite) :
      (compare .lte).Holds store x y ↔ order x y ≠ .gt := by
    rw [holds_compare_iff hx hy, Comparison.accepts, bne_iff_ne]
  have hgtIff : (compare .gt).Holds store a b ↔ order a b = .gt := by
    rw [holds_compare_iff ha hb, Comparison.accepts, beq_iff_eq]
  have hgteIff : (compare .gte).Holds store a b ↔ order a b ≠ .lt := by
    rw [holds_compare_iff ha hb, Comparison.accepts, bne_iff_ne]
  refine ⟨?_, ?_, ?_, ?_, ?_, ?_, ?_, ?_⟩
  · simp only [List.forall_mem_cons, answer_compare ha hb, answer_equal ha hb]
    exact ⟨⟨_, rfl⟩, ⟨_, rfl⟩, ⟨_, rfl⟩, ⟨_, rfl⟩, ⟨_, rfl⟩, nofun⟩
  · rw [hltIff a b ha hb, holds_equal_iff ha hb, hgtIff]
    cases order a b <;> decide
  · rw [hlteIff a b ha hb, hgtIff]
  · rw [hgteIff, hltIff a b ha hb]
  · rw [hgtIff, hltIff b a hb ha, ← hswap]
    cases order a b <;> decide
  · rw [hltIff a b ha hb, hltIff b c hb hc, hltIff a c ha hc]
    exact order_lt_trans
  · rw [hlteIff a b ha hb, hlteIff b c hb hc, hlteIff a c ha hc]
    exact fun hab hbc => not_congr (order_eq_gt_iff hb hab hbc)
  · rw [holds_equal_iff ha hb, holds_equal_iff hb hc, holds_equal_iff ha hc]
    exact order_eq_iff hb

/-- Two to the power 53, its double and the next integer go up, and no float blurs them in this
order: the first is at most the last. -/
theorem numbers_compared_upward :
    ((integer 9007199254740992).Finite ∧ (float 9007199254740992.0).Finite ∧
      (integer 9007199254740993).Finite) ∧
    (compare .lte).Holds .empty (integer 9007199254740992) (integer 9007199254740993) := by
  have ha : (integer 9007199254740992).Finite := isFinite_toFloat _
  have hb : (float 9007199254740992.0).Finite := by decide
  have hc : (integer 9007199254740993).Finite := isFinite_toFloat _
  obtain ⟨-, -, -, -, -, -, hlte, -⟩ := numbers_compared .empty [] true true ha hb hc
  refine ⟨⟨ha, hb, hc⟩, (hlte (by decide) (by decide)).2 ?_⟩
  exact fun h => absurd h.1 (by decide)

/-- The same three numbers the other way: the next integer is equal to the double, and the double to
two to the power 53, but the integers are not equal, and the first is not at most the last. -/
theorem weak_comparisons_not_transitive :
    ((compare .lte).Holds .empty (integer 9007199254740993) (float 9007199254740992.0) ∧
      (compare .lte).Holds .empty (float 9007199254740992.0) (integer 9007199254740992) ∧
      ¬(compare .lte).Holds .empty (integer 9007199254740993) (integer 9007199254740992)) ∧
    (equal .exact [] true true).Holds .empty (integer 9007199254740993)
        (float 9007199254740992.0) ∧
      (equal .exact [] true true).Holds .empty (float 9007199254740992.0)
        (integer 9007199254740992) ∧
      ¬(equal .exact [] true true).Holds .empty (integer 9007199254740993)
        (integer 9007199254740992) := by
  decide

end BinaryOp

end Assessment
