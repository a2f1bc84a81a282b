import Assessment.Proofs.Expr.Comparison

/-!
# Equality after rounding

`equalRounded` rounds two operands and compares the doubles. `roundTo` rounds one operand, and the
values of two such roundings can be compared with `equal`. The operators look at their attributes
and operands in a different order, and each names itself in its faults. Where the two roundings are
without a fault there is no difference: the rounding of an operand is a double or nothing, and both
ways compare the same two roundings.

The code is the arms equalRounded and roundTo of `eval_expr`. Both go through `check_figures` and
`round_to`, and the latter may break down (`Fault.breakdown`); then neither side is without a fault
and nothing is claimed.

* `isFinite_of_roundTo!_eq_some`: a rounding is a finite double.
* `Rounding`: what the rounding of a value is, once the attribute is resolved.
* `UnaryOp.exists_rounding`: `roundTo` without a fault gives a rounding.
* `Expr.eval_equalRounded`: `equalRounded` agrees with `equal` on two `roundTo`.
-/

namespace Assessment

/-! ## Roundings are finite -/

namespace Numeric

variable {x y : Float} {mode : RoundingMode}

theorem isFinite_of_finite?_eq_some (h : finite? x = some y) : y.isFinite = true := by
  rw [finite?, Option.ite_none_right_eq_some, Option.some.injEq] at h
  obtain ⟨hx, rfl⟩ := h
  exact hx

theorem isFinite_of_roundScaled!_eq_some {places : Int}
    (h : roundScaled! x places = some (some y)) : y.isFinite = true := by
  rw [roundScaled!] at h
  split at h
  · dsimp only at h
    split at h <;> exact isFinite_of_finite?_eq_some (Option.some.inj h)
  · obtain ⟨opposite, -, h⟩ := Option.bind_eq_some_iff.1 h
    exact isFinite_of_finite?_eq_some (Option.some.inj h)

theorem isFinite_of_roundBinary!_eq_some {n : Nat} (h : roundBinary! x mode n = some (some y)) :
    y.isFinite = true := by
  rw [roundBinary!] at h
  split at h
  · obtain ⟨places, -, h⟩ := Option.bind_eq_some_iff.1 h
    exact isFinite_of_roundScaled!_eq_some h
  · cases h

theorem isFinite_of_roundTo!_eq_some {n : Int64} (h : roundTo! x mode n = some (some y)) :
    y.isFinite = true := by
  rw [roundTo!] at h
  split at h
  · cases h
  · split at h
    · cases h
      decide
    · split at h
      · split at h
        · exact isFinite_of_roundBinary!_eq_some h
        · split at h
          · exact isFinite_of_finite?_eq_some (Option.some.inj h)
          · exact isFinite_of_roundBinary!_eq_some h
      · exact isFinite_of_roundBinary!_eq_some h

end Numeric

open Numeric

/-! ## The rounding of an operand -/

/-- The rounding of a value to a count of figures: none where the count or the value counts as
NULL, and for a number what `roundTo!` gives, if the count is not too small for the mode and the
rounding does not break down. -/
inductive Rounding (mode : RoundingMode) : Option Int64 → Value → Option Float → Prop
  | unresolved (v : Value) : Rounding mode none v none
  | null {v : Value} (n : Int64) : v.isNull = true → Rounding mode (some n) v none
  | number {n : Int64} {r : Option Float} (a : Number) :
      mode.least ≤ n.toInt → roundTo! a.toFloat mode n = some r →
        Rounding mode (some n) (.single a.toScalar) r

variable {store : Store} {mode : RoundingMode} {figures : IntegerAttribute} {k : Option Int64}
  {v v' x y : Value} {r s : Option Float}

theorem Rounding.ofFloat?_eq {p : Float} (h : Rounding mode k v (some p)) :
    Value.ofFloat? (some p) = .single (.float p) := by
  cases h with
  | number a _ hp => exact if_pos (isFinite_of_roundTo!_eq_some hp)

/-- An attribute has the same value for all operators. -/
theorem IntegerAttribute.resolve_eq_ok {op : String} (op' : String)
    (h : figures.resolve op store = .ok k) : figures.resolve op' store = .ok k := by
  rcases figures with n | id
  · exact h
  · obtain ⟨v, hv, h⟩ := bind_eq_ok_iff.1 h
    refine bind_eq_ok_iff.2 ⟨v, hv, ?_⟩
    split at h
    · rw [if_pos ‹_›]
      exact h
    · rw [if_neg ‹_›]
      split at h
      · exact h
      · cases h

theorem exists_toScalar_of_numberOf {op : String} {a : Number} (h : numberOf op v = .ok a) :
    v = .single a.toScalar := by
  cases v with
  | single s =>
    cases s with
    | integer n | float z =>
      cases h
      rfl
    | _ => cases h
  | _ => cases h

theorem checkFigures_eq_ok_iff {op : String} {n : Int64} {u : Unit} :
    checkFigures op mode n = .ok u ↔ mode.least ≤ n.toInt := by
  rw [checkFigures, ← not_lt]
  split <;> simp_all

theorem Number.rounded_eq_ok_iff {n : Int64} {a : Number} :
    a.rounded mode n = .ok r ↔ roundTo! a.toFloat mode n = some r := by
  rw [Number.rounded]
  cases roundTo! a.toFloat mode n <;> simp

/-- **`roundTo` without a fault** gives the rounding of its operand. -/
theorem UnaryOp.exists_rounding {patterns : Pattern.Engine}
    (h : (roundTo mode figures).apply patterns store v = .ok x)
    (hk : figures.resolve "roundTo" store = .ok k) :
    ∃ r, Rounding mode k v r ∧ x = .ofFloat? r := by
  obtain ⟨k', hk', h⟩ := bind_eq_ok_iff.1 h
  obtain rfl : k' = k := Except.ok.inj (hk'.symm.trans hk)
  cases k' with
  | none =>
    cases h
    exact ⟨none, .unresolved v, rfl⟩
  | some n =>
    dsimp only at h
    by_cases hv : v.isNull
    · rw [unlessNull_of_isNull hv] at h
      cases h
      exact ⟨none, .null n hv, rfl⟩
    · rw [unlessNull, if_neg hv] at h
      obtain ⟨a, ha, h⟩ := bind_eq_ok_iff.1 h
      obtain ⟨_, hn, h⟩ := bind_eq_ok_iff.1 h
      obtain ⟨r, hr, h⟩ := bind_eq_ok_iff.1 h
      cases h
      obtain rfl := exists_toScalar_of_numberOf ha
      exact ⟨r, .number a (checkFigures_eq_ok_iff.1 hn) (Number.rounded_eq_ok_iff.1 hr), rfl⟩

/-! ## Two roundings -/

/-- Whether two roundings are equal doubles; NULL when there is none. -/
def sameRounding : Option Float → Option Float → Value
  | some p, some q => .ofBool (p == q)
  | _, _ => .null

namespace BinaryOp

theorem apply_equalRounded (hk : figures.resolve "roundTo" store = .ok k)
    (hr : Rounding mode k v r) (hs : Rounding mode k v' s) :
    (equalRounded mode figures).apply store v v' = .ok (sameRounding r s) := by
  refine bind_eq_ok_iff.2 ⟨k, IntegerAttribute.resolve_eq_ok _ hk, ?_⟩
  cases hr with
  | unresolved =>
    cases hs
    rfl
  | null n hv =>
    rw [sameRounding]
    · exact unlessEitherNull_of_isNull (.inl hv)
    · nofun
  | number a hn ha =>
    cases hs with
    | null _ hv' =>
      rw [sameRounding]
      · exact unlessEitherNull_of_isNull (.inr hv')
      · nofun
    | number b _ hb =>
      show unlessEitherNull _ _ _ = _
      rw [unlessEitherNull_of_isNull_eq_false (isNull_toScalar a) (isNull_toScalar b),
        numberOf_toScalar, numberOf_toScalar]
      refine bind_eq_ok_iff.2 ⟨a, rfl, bind_eq_ok_iff.2 ⟨b, rfl, bind_eq_ok_iff.2 ⟨(), ?_, ?_⟩⟩⟩
      · exact checkFigures_eq_ok_iff.2 hn
      · rw [equalAfterRounding, Number.rounded_eq_ok_iff.2 ha, Number.rounded_eq_ok_iff.2 hb]
        rcases r with _ | p <;> rcases s with _ | q <;> rfl

theorem apply_equal_ofFloat? (tolerance : List FloatAttribute) (low high : Bool)
    (hr : Rounding mode k v r) (hs : Rounding mode k v' s) :
    (equal .exact tolerance low high).apply store (.ofFloat? r) (.ofFloat? s) =
      .ok (sameRounding r s) := by
  cases r with
  | none =>
    rw [apply]
    exact unlessEitherNull_of_isNull (.inl rfl)
  | some p =>
    cases s with
    | none =>
      rw [apply]
      exact unlessEitherNull_of_isNull (.inr rfl)
    | some q =>
      rw [hr.ofFloat?_eq, hs.ofFloat?_eq]
      rfl

end BinaryOp

/-! ## Evaluation -/

namespace Expr

open Eval

variable {σ : Type} {env : Environment σ} {t u w : Trail σ} {a b : Expr}

theorem runOn_unary_iff {op : UnaryOp} :
    ((unary op a).eval env store).runOn t = (.ok x, u) ↔
      ∃ v, (a.eval env store).runOn t = (.ok v, u) ∧ op.apply env.patterns store v = .ok x := by
  rw [eval, runOn_bind_eq_ok_iff]
  constructor
  · rintro ⟨v, u', hv, h⟩
    rw [runOn_ofExcept, Prod.mk.injEq] at h
    obtain ⟨h, rfl⟩ := h
    exact ⟨v, hv, h⟩
  · rintro ⟨v, hv, h⟩
    exact ⟨v, u, hv, by rw [runOn_ofExcept, h]⟩

theorem runOn_binary {op : BinaryOp} (ha : (a.eval env store).runOn t = (.ok x, u))
    (hb : (b.eval env store).runOn u = (.ok y, w)) :
    ((binary op a b).eval env store).runOn t = (op.apply store x y, w) := by
  rw [eval, runOn_bind_of_ok ha, runOn_bind_of_ok hb, runOn_ofExcept]

/-- **Equality after rounding.** When `roundTo` of two operands, one after the other, is without a
fault, both operands have values and both values have roundings. `equalRounded` of the operands is
then without a fault too, leaves the same trail, and gives what exact `equal` of the two `roundTo`
gives: whether the roundings are equal, and NULL when there is none of an operand. -/
theorem eval_equalRounded
    (hx : ((unary (.roundTo mode figures) a).eval env store).runOn t = (.ok x, u))
    (hy : ((unary (.roundTo mode figures) b).eval env store).runOn u = (.ok y, w))
    (tolerance : List FloatAttribute) (low high : Bool) :
    ∃ k v v' r s, figures.resolve "roundTo" store = .ok k ∧
      (a.eval env store).runOn t = (.ok v, u) ∧ Rounding mode k v r ∧ x = .ofFloat? r ∧
      (b.eval env store).runOn u = (.ok v', w) ∧ Rounding mode k v' s ∧ y = .ofFloat? s ∧
      ((binary (.equalRounded mode figures) a b).eval env store).runOn t =
        (.ok (sameRounding r s), w) ∧
      ((binary (.equal .exact tolerance low high) (unary (.roundTo mode figures) a)
        (unary (.roundTo mode figures) b)).eval env store).runOn t =
          (.ok (sameRounding r s), w) := by
  obtain ⟨v, hv, hx'⟩ := runOn_unary_iff.1 hx
  obtain ⟨v', hv', hy'⟩ := runOn_unary_iff.1 hy
  obtain ⟨k, hk, -⟩ := bind_eq_ok_iff.1 hx'
  obtain ⟨r, hr, rfl⟩ := UnaryOp.exists_rounding hx' hk
  obtain ⟨s, hs, rfl⟩ := UnaryOp.exists_rounding hy' hk
  refine ⟨k, v, v', r, s, hk, hv, hr, rfl, hv', hs, rfl, ?_, ?_⟩
  · rw [runOn_binary hv hv', BinaryOp.apply_equalRounded hk hr hs]
  · rw [runOn_binary hx hy, BinaryOp.apply_equal_ofFloat? tolerance low high hr hs]

/-- A draw that gives three, and a float a little below three, are equal after rounding to whole
numbers, and so are the two roundings. -/
theorem eval_equalRounded_three :
    ((unary (.roundTo .decimalPlaces (.value 0)) (.randomInteger (.value 3) (.value 5)
        (.value 1))).eval .replay .empty).runOn (.start ⟨[-7], []⟩) =
        (.ok (.single (.float 3.0)), .start ⟨[], []⟩) ∧
      ((unary (.roundTo .decimalPlaces (.value 0)) (.literal (.float 2.96))).eval .replay
        .empty).runOn (.start ⟨[], []⟩) = (.ok (.single (.float 3.0)), .start ⟨[], []⟩) ∧
      ((binary (.equal .exact [] true true)
        (unary (.roundTo .decimalPlaces (.value 0)) (.randomInteger (.value 3) (.value 5)
          (.value 1)))
        (unary (.roundTo .decimalPlaces (.value 0)) (.literal (.float 2.96)))).eval .replay
        .empty).runOn (.start ⟨[-7], []⟩) = (.ok (.ofBool true), .start ⟨[], []⟩) := by
  have hx : ((unary (.roundTo .decimalPlaces (.value 0)) (.randomInteger (.value 3) (.value 5)
      (.value 1))).eval .replay .empty).runOn (.start ⟨[-7], []⟩) =
      (.ok (.single (.float 3.0)), .start ⟨[], []⟩) :=
    runOn_unary_iff.2 ⟨.ofInt64 3, rfl, by decide +kernel⟩
  have hy : ((unary (.roundTo .decimalPlaces (.value 0)) (.literal (.float 2.96))).eval .replay
      .empty).runOn (.start ⟨[], []⟩) = (.ok (.single (.float 3.0)), .start ⟨[], []⟩) :=
    runOn_unary_iff.2 ⟨.single (.float 2.96), rfl, by decide +kernel⟩
  obtain ⟨k, v, v', r, s, -, -, -, -, -, -, -, hrounded, hequal⟩ :=
    eval_equalRounded hx hy [] true true
  have htrue : (((binary (.equalRounded .decimalPlaces (.value 0)) (.randomInteger (.value 3)
      (.value 5) (.value 1)) (.literal (.float 2.96))).eval .replay .empty).runOn
      (.start ⟨[-7], []⟩)).1 = .ok (.ofBool true) := by decide +kernel
  rw [hrounded] at htrue
  refine ⟨hx, hy, ?_⟩
  rw [hequal]
  exact Prod.ext htrue rfl

end Expr

end Assessment
