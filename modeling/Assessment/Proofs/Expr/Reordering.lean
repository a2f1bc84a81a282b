import Assessment.Proofs.Expr.NullOperand
import Assessment.Proofs.Numeric.Reordering
import Assessment.Proofs.Value.Equality

/-!
# Sum and product of multisets

The sum and the product of a multiset are built up in the order in which its elements are stored,
and are NULL as soon as a partial result does not fit in 64 bits. The order of a multiset is no part
of its value, so equal multisets can have different sums: one may store its elements so that every
partial sum fits, the other not.

The code is the arms sum and product of `eval_expr`, which fold `checked_add` and `checked_mul` and
stop at the first overflow, while a multiset is unordered by the documentation of `Value`.

* `Container.same_multiple_iff`: multisets of integers are the same when their integers are.
* `VariadicOp.apply_multiple`: the result on a multiset of integers, as a fold over them.
* `VariadicOp.apply_orderFree_iff`: all equal multisets have one result exactly when the whole does
  not fit, or every part of it does.
-/

namespace Assessment

open Numeric

/-! ## Multisets of integers -/

namespace Container

variable {c d : Container}

/-- The integers of a container. -/
def integers (c : Container) : List Int64 := c.items.filterMap integerOfScalar?

theorem items_eq_map_integers (hc : c.baseType = .integer) : c.items = c.integers.map .integer := by
  have hitems (l : List Scalar) (h : ∀ s ∈ l, s.baseType = .integer) :
      l = (l.filterMap integerOfScalar?).map .integer := by
    induction l with
    | nil => rfl
    | cons s l ih =>
      obtain ⟨hs, hl⟩ := List.forall_mem_cons.1 h
      cases s with
      | integer n => exact congrArg (.integer n :: ·) (ih hl)
      | _ => cases hs
  exact hitems c.items fun s hs => (c.homogeneous s hs).trans hc

/-- The container of integers in an order. -/
def ofIntegers (l : List Int64) : Container :=
  ⟨.integer, l.map .integer, fun s hs => by
    obtain ⟨n, -, rfl⟩ := List.mem_map.1 hs
    rfl⟩

theorem integers_ofIntegers (l : List Int64) : (ofIntegers l).integers = l := by
  have hitems := items_eq_map_integers (c := ofIntegers l) rfl
  exact (List.map_injective_iff.2 (fun _ _ => Scalar.integer.inj) hitems).symm

theorem occurrences_integer (n : Int64) (l : List Int64) :
    occurrences (.integer n) (l.map .integer) = l.count n := by
  rw [occurrences, List.countP_map]
  rfl

/-- **Multisets of integers are the same** when their integers are, in any order. -/
theorem same_multiple_iff (hc : c.baseType = .integer) :
    (Value.multiple c).same (.multiple d) = true ↔
      d.baseType = .integer ∧ d.integers.Perm c.integers := by
  constructor
  · intro h
    obtain ⟨-, htype, hcount⟩ := (sameElements_iff c d).1 h
    have hd : d.baseType = .integer := htype.symm.trans hc
    refine ⟨hd, List.perm_iff_count.2 fun n => ?_⟩
    rw [← occurrences_integer, ← occurrences_integer, ← items_eq_map_integers hc,
      ← items_eq_map_integers hd, hcount]
  · rintro ⟨hd, hperm⟩
    have hitems : d.items.Perm c.items := by
      rw [items_eq_map_integers hc, items_eq_map_integers hd]
      exact hperm.map _
    have hself : (Value.multiple c).same (.multiple c) = true := by
      refine (Value.same_self_iff _).2 fun s hs => ?_
      rw [Value.scalars, items_eq_map_integers hc] at hs
      obtain ⟨n, -, rfl⟩ := List.mem_map.1 hs
      rfl
    exact (sameElements_of_perm rfl (.refl _) (hd.trans hc.symm) hitems).trans hself

end Container

/-! ## The operators -/

theorem Value.ofInt64?_injective : Function.Injective Value.ofInt64?
  | none, none, _ => rfl
  | some m, some n, h => by
    cases h
    rfl

namespace VariadicOp

variable {op : VariadicOp} {whole : List Int64 → Int} {l m : List Int64} {c : Container}

/-- The result without bounds of the operators that build up an integer. -/
def whole? : VariadicOp → Option (List Int64 → Int)
  | sum => some sumOf
  | product => some productOf
  | _ => none

/-- The result of the operators that build up an integer. -/
def ofIntegers? : VariadicOp → List Int64 → Option Int64
  | sum, l => sumFrom? 0 l
  | product, l => productFrom? 1 l
  | _, _ => none

theorem numbersOfScalars_integer (name : String) (l : List Int64) :
    numbersOfScalars name (l.map .integer) = .ok (l.map .integer) := by
  induction l with
  | nil => rfl
  | cons n l ih => rw [List.map_cons, numbersOfScalars, ih]; rfl

theorem allIntegers?_map (l : List Int64) : allIntegers? (l.map .integer) = some l := by
  induction l with
  | nil => rfl
  | cons n l ih =>
    rw [allIntegers?] at ih ⊢
    rw [List.map_cons, List.mapM_cons, ih]
    rfl

/-- The result on a multiset of integers: NULL without elements. -/
theorem apply_multiple (hop : op.whole? = some whole) (hc : c.baseType = .integer) :
    op.apply [.multiple c] =
      .ok (if c.integers = [] then .null else .ofInt64? (op.ofIntegers? c.integers)) := by
  split
  case isTrue hnil =>
    have hnull : (Value.multiple c).isNull = true := by
      rw [Value.isNull, Container.isEmpty, Container.items_eq_map_integers hc, hnil]
      rfl
    refine apply_eq_null ?_ ⟨_, List.mem_singleton_self _, hnull⟩
    cases op <;> first | rfl | cases hop
  case isFalse hne =>
    have hnumbers (name : String) :
        numbersOf name [.multiple c] = .ok (some (c.integers.map .integer)) := by
      have hnull : (Value.multiple c).isNull = false := by
        rw [Value.isNull, Container.isEmpty, Container.items_eq_map_integers hc]
        simpa using hne
      rw [numbersOf, if_neg (by simp [hnull]), numbersOfValues, numbersOfValue,
        Container.items_eq_map_integers hc, numbersOfScalars_integer]
      exact congrArg (fun l => Except.ok (some l)) (List.append_nil _)
    cases op with
    | sum | product =>
      rw [apply, onAllNumbers, hnumbers]
      simp only [sumNumbers, multiplyNumbers, ofIntegers?, allIntegers?_map, bind, Except.bind]
      rfl
    | _ => cases hop

theorem toInt_of_ofIntegers? {n : Int64} (hop : op.whole? = some whole)
    (h : op.ofIntegers? l = some n) : n.toInt = whole l := by
  cases op with
  | sum =>
    cases hop
    rw [ofIntegers?, sumFrom?_eq_foldlM, foldlM_eq_some_iff, total_zero] at h
    exact h.1
  | product =>
    cases hop
    rw [ofIntegers?, productFrom?_eq_foldlM, foldlM_eq_some_iff, total_one] at h
    exact h.1
  | _ => cases hop

theorem ofIntegers?_orderFree_iff (hop : op.whole? = some whole) :
    (∀ m : List Int64, m.Perm l → op.ofIntegers? m = op.ofIntegers? l) ↔
      fit? (whole l) = none ∨
        ∀ part : List Int64, part.Subperm l → (fit? (whole part)).isSome := by
  cases op with
  | sum =>
    cases hop
    simp only [ofIntegers?, sumFrom?_eq_foldlM, ← total_zero]
    refine orderFree_iff Int.add_right_comm fun h => ?_
    rw [total_add] at h
    exact exists_order_add h
  | product =>
    cases hop
    simp only [ofIntegers?, productFrom?_eq_foldlM, ← total_one]
    refine orderFree_iff Int.mul_right_comm fun h => ?_
    rw [total_mul] at h
    exact exists_order_mul h (.inr (by decide))
  | _ => cases hop

theorem whole_of_perm (hop : op.whole? = some whole) (h : l.Perm m) : whole l = whole m := by
  cases op with
  | sum =>
    cases hop
    exact (h.map _).sum_eq
  | product =>
    cases hop
    exact (h.map _).prod_eq
  | _ => cases hop

/-- The parts of a list of integers are its sublists, in any order. -/
theorem forall_subperm_iff (hop : op.whole? = some whole) :
    (∀ part : List Int64, part.Subperm l → (fit? (whole part)).isSome) ↔
      ∀ part ∈ l.sublists, (fit? (whole part)).isSome := by
  constructor
  · exact fun h part hpart => h part (List.mem_sublists.1 hpart).subperm
  · rintro h part ⟨m, hperm, hsub⟩
    rw [← whole_of_perm hop hperm]
    exact h m (List.mem_sublists.2 hsub)

/-- **Equal multisets with one result.** On a multiset of integers, a sum or a product is NULL or
the one without bounds. All multisets that are the same have one result exactly when the whole does
not fit in 64 bits, or every part of the integers has one that does. -/
theorem apply_orderFree_iff (hop : op.whole? = some whole) (hc : c.baseType = .integer) :
    (∃ r, op.apply [.multiple c] = .ok (.ofInt64? r) ∧
      ∀ n, r = some n → n.toInt = whole c.integers) ∧
    ((∀ d, (Value.multiple c).same (.multiple d) = true →
        op.apply [.multiple d] = op.apply [.multiple c]) ↔
      fit? (whole c.integers) = none ∨
        ∀ part : List Int64, part.Subperm c.integers → (fit? (whole part)).isSome) := by
  constructor
  · rw [apply_multiple hop hc]
    split
    · exact ⟨none, rfl, fun n h => by cases h⟩
    · exact ⟨_, rfl, fun n => toInt_of_ofIntegers? hop⟩
  rw [← ofIntegers?_orderFree_iff hop]
  constructor
  · intro hfree m hm
    have hsame : (Value.multiple c).same (.multiple (.ofIntegers m)) = true := by
      rw [Container.same_multiple_iff hc, Container.integers_ofIntegers]
      exact ⟨rfl, hm⟩
    have happly := hfree _ hsame
    rw [apply_multiple hop hc, apply_multiple hop rfl, Container.integers_ofIntegers] at happly
    by_cases hnil : c.integers = []
    · rw [hnil] at hm ⊢
      rw [hm.eq_nil]
    · have hne : m ≠ [] := fun h => hnil (h ▸ hm).symm.eq_nil
      rw [if_neg hnil, if_neg hne] at happly
      exact Value.ofInt64?_injective (Except.ok.inj happly)
  · intro hfree d hd
    obtain ⟨htype, hperm⟩ := (Container.same_multiple_iff hc).1 hd
    have hnil : d.integers = [] ↔ c.integers = [] :=
      ⟨fun h => (h ▸ hperm).nil_eq.symm, fun h => (h ▸ hperm).eq_nil⟩
    rw [apply_multiple hop hc, apply_multiple hop htype, hfree _ hperm]
    simp only [hnil]

/-- The greatest integer and a negative one have a sum in every order. -/
theorem sum_greatest_orderFree :
    (sum.whole? = some sumOf ∧ (Container.ofIntegers [Int64.maxValue, -1, 0]).baseType = .integer) ∧
      ∀ d, (Value.multiple (.ofIntegers [Int64.maxValue, -1, 0])).same (.multiple d) = true →
        sum.apply [.multiple d] = sum.apply [.multiple (.ofIntegers [Int64.maxValue, -1, 0])] := by
  have hsum : sum.whole? = some sumOf := rfl
  refine ⟨⟨hsum, rfl⟩, (apply_orderFree_iff hsum rfl).2.2 (.inr ?_)⟩
  rw [Container.integers_ofIntegers, forall_subperm_iff hsum]
  decide

/-- The greatest integer, one and minus one: their sum is the greatest integer, but there is none
when one comes first of the two. The product of the greatest integer, two and zero is zero, but
there is none when zero comes last. -/
theorem sum_and_product_depend_on_order :
    ((Value.multiple (.ofIntegers [Int64.maxValue, 1, -1])).same
        (.multiple (.ofIntegers [Int64.maxValue, -1, 1])) = true ∧
      sum.apply [.multiple (.ofIntegers [Int64.maxValue, 1, -1])] = .ok .null ∧
      sum.apply [.multiple (.ofIntegers [Int64.maxValue, -1, 1])] =
        .ok (.ofInt64 Int64.maxValue)) ∧
    (Value.multiple (.ofIntegers [Int64.maxValue, 2, 0])).same
        (.multiple (.ofIntegers [0, Int64.maxValue, 2])) = true ∧
      product.apply [.multiple (.ofIntegers [Int64.maxValue, 2, 0])] = .ok .null ∧
      product.apply [.multiple (.ofIntegers [0, Int64.maxValue, 2])] = .ok (.ofInt64 0) := by
  decide

end VariadicOp

end Assessment
