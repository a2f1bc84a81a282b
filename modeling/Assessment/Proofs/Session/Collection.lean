import Assessment.Expr.Operand
import Assessment.Proofs.Numeric.Equality
import Assessment.Proofs.Numeric.Order
import Assessment.Proofs.Session.Finite

/-!
# The values of a variable over the items of a test

A query gathers the values that the items offer, one from each item and in the order of the test,
and makes a multiset of them. Weights turn numbers into floats and leave other values as they are,
so that integers, floats and other values may meet: integers become floats among floats, and what
has no base type in common is refused. No value is lost, repeated or moved on the way.

The code is `test_variables` with `select` and `weighted`.

* `TestSession.Offers`, `TestSession.Gathers`: which values an item offers and a test gathers.
* `TestSession.gathers_iff`: the values that a query collects are those gathered.
* `TestSession.Assembles`: what is made of a list of values.
* `TestSession.values_assembles`: what a query for the values of a variable gives.
-/

namespace Assessment

open Numeric

/-- An integer and its double are equal as the operators compare numbers. -/
theorem Number.compare?_toFloat (n : Int64) :
    Number.compare? (.integer n) (.float (Numeric.toFloat n)) = some .eq := by
  have heq : (Numeric.toFloat n == Numeric.toFloat n) = true :=
    float_beq_self_iff.2 (float_isNaN_of_isFinite (isFinite_toFloat n))
  show Number.compareFloats? (Numeric.toFloat n) (Numeric.toFloat n) = some .eq
  rw [compareFloats?, if_neg (float_lt_irrefl _), if_pos heq]

/-! ## Single values -/

namespace Scalar

/-- A scalar is an integer or a float. -/
def IsNumber (x : Scalar) : Prop := x.baseType = .integer ∨ x.baseType = .float

/-- A weight other than one makes a number its product with the weight, a float; any other scalar,
and a number of weight one, it leaves as it is. -/
inductive Weighs (w : Float) : Scalar → Scalar → Prop
  | integer (n : Int64) :
      (w == 1.0) = false → Weighs w (.integer n) (.float (Float.ofInt n.toInt * w))
  | float (x : Float) : (w == 1.0) = false → Weighs w (.float x) (.float (x * w))
  | unchanged (x : Scalar) : ¬ x.IsNumber ∨ (w == 1.0) = true → Weighs w x x

/-- A number becomes a float: a float itself, and an integer its double, which is equal to it. -/
inductive Widens : Scalar → Scalar → Prop
  | float (x : Float) : Widens (.float x) (.float x)
  | integer (n : Int64) :
      Number.compare? (.integer n) (.float (Float.ofInt n.toInt)) = some .eq →
      Widens (.integer n) (.float (Float.ofInt n.toInt))

/-- The scalars of a list can be in one container: all are numbers, or all have one base type. -/
def Compatible (w : List Scalar) : Prop :=
  (∀ x ∈ w, x.IsNumber) ∨ ∃ t, ∀ x ∈ w, x.baseType = t

theorem widens_widenScalar {x : Scalar} (h : x.IsNumber) : Widens x (widenScalar x) := by
  cases x with
  | integer n => exact .integer n (Number.compare?_toFloat n)
  | float x => exact .float x
  | _ => rcases h with h | h <;> cases h

end Scalar

namespace TestSession

open Scalar

variable {f : ItemFilter} {id : String} {t : Option BaseType} {weight : Option String}
  {i : ItemSession} {items : List ItemSession} {x y : Scalar} {w : List Scalar}

/-- Weight one, and any weight on what is no number, changes nothing. -/
theorem weighted_eq_self {weight : Float} (h : ¬ x.IsNumber ∨ (weight == 1.0) = true) :
    weighted x weight = x := by
  rcases h with hx | hw
  · rw [IsNumber, ← isSome_toFloat?_iff, Option.not_isSome_iff_eq_none] at hx
    rw [weighted, hx]
  · rw [weighted, hw]
    split <;> rfl

theorem weighs_iff {weight : Float} : Weighs weight x y ↔ y = weighted x weight := by
  constructor
  · intro h
    cases h with
    | integer n hw | float z hw =>
      rw [weighted, Scalar.toFloat?, hw]
      rfl
    | unchanged _ h => rw [weighted_eq_self h]
  · rintro rfl
    by_cases h : ¬ x.IsNumber ∨ (weight == 1.0) = true
    · rw [weighted_eq_self h]
      exact .unchanged x h
    · obtain ⟨hx, hw⟩ := not_or.1 h
      rw [Bool.not_eq_true] at hw
      cases x with
      | integer n =>
        rw [weighted, Scalar.toFloat?, hw]
        exact .integer n hw
      | float z =>
        rw [weighted, Scalar.toFloat?, hw]
        exact .float z hw
      | _ => rcases not_not.1 hx with hx | hx <;> cases hx

/-! ## Gathering -/

/-- An item offers a value: it is selected, the filter passes it, and its variable has that single
value, of the base type asked for. -/
structure Offers (f : ItemFilter) (id : String) (t : Option BaseType) (i : ItemSession)
    (x : Scalar) : Prop where
  selected : i.selected
  passes : f.passes i
  value : i.value id = .single x
  baseType : ∀ u, t = some u → x.baseType = u

/-- The values that items offer, weighted, in the order of the items. -/
inductive Gathers (f : ItemFilter) (id : String) (t : Option BaseType) (weight : Option String) :
    List ItemSession → List Scalar → Prop
  | nil : Gathers f id t weight [] []
  | without {i : ItemSession} {items : List ItemSession} {w : List Scalar} :
      (∀ x, ¬ Offers f id t i x) → Gathers f id t weight items w →
      Gathers f id t weight (i :: items) w
  | taken {i : ItemSession} {items : List ItemSession} {x y : Scalar} {w : List Scalar} :
      Offers f id t i x → Weighs (i.weightOf weight) x y → Gathers f id t weight items w →
      Gathers f id t weight (i :: items) (y :: w)

/-- What a query collects from one item. -/
def gathered? (f : ItemFilter) (id : String) (t : Option BaseType) (weight : Option String)
    (i : ItemSession) : Option Scalar :=
  if (i.selected && f.passes i) = true then collected? id t weight i else none

theorem gathered?_eq_some_iff :
    gathered? f id t weight i = some y ↔
      ∃ x, Offers f id t i x ∧ Weighs (i.weightOf weight) x y := by
  unfold gathered?
  constructor
  · intro h
    split_ifs at h with hpass
    rw [Bool.and_eq_true] at hpass
    obtain ⟨x, hx, ht, rfl⟩ := exists_of_collected? h
    exact ⟨x, ⟨hpass.1, hpass.2, hx, fun u hu => (ht u hu).symm⟩, weighs_iff.2 rfl⟩
  · rintro ⟨x, hx, hy⟩
    rw [if_pos (Bool.and_eq_true _ _ ▸ ⟨hx.selected, hx.passes⟩), weighs_iff.1 hy, collected?,
      hx.value]
    have ht : ¬ (t.any fun u => u != x.baseType) = true := by
      rw [Option.any_eq_true]
      rintro ⟨u, hu, hne⟩
      simp [hx.baseType u hu] at hne
    exact if_neg ht

/-- **Gathering.** The values that items offer are those that a query collects from them. -/
theorem gathers_iff :
    Gathers f id t weight items w ↔
      w = (items.filter fun i => i.selected && f.passes i).filterMap (collected? id t weight) := by
  rw [List.filterMap_filter]
  show _ ↔ w = items.filterMap (gathered? f id t weight)
  constructor
  · intro h
    induction h with
    | nil => rfl
    | @without i _ _ hi _ ih =>
      have hnone : gathered? f id t weight i = none := Option.eq_none_iff_forall_ne_some.2
        fun y hy => by
          obtain ⟨x, hx, -⟩ := gathered?_eq_some_iff.1 hy
          exact hi x hx
      rw [List.filterMap_cons_none hnone, ih]
    | taken hx hy _ ih =>
      rw [List.filterMap_cons_some (gathered?_eq_some_iff.2 ⟨_, hx, hy⟩), ih]
  · rintro rfl
    induction items with
    | nil => exact .nil
    | cons i items ih =>
      cases hi : gathered? f id t weight i with
      | none =>
        rw [List.filterMap_cons_none hi]
        refine .without (fun x hx => ?_) ih
        rw [gathered?_eq_some_iff.2 ⟨x, hx, weighs_iff.2 rfl⟩] at hi
        cases hi
      | some y =>
        obtain ⟨x, hx, hy⟩ := gathered?_eq_some_iff.1 hi
        rw [List.filterMap_cons_some hi]
        exact .taken hx hy ih

/-! ## Assembling -/

/-- A list of values makes a multiset: NULL without values; one with exactly the values in their
order, where they are compatible; and else a fault that names two of their base types. It is a
multiset of floats when there is a float among the values, and then integers become floats. -/
structure Assembles (w : List Scalar) (result : Except Fault Value) : Prop where
  null_iff : result = .ok .null ↔ w = []
  ok_iff : (∃ v, result = .ok v) ↔ Compatible w
  mixed : ¬ Compatible w → ∃ x ∈ w, ∃ y ∈ w, x.baseType ≠ y.baseType ∧
    result = .error (.mixedBaseTypes x.baseType y.baseType)
  elements : w ≠ [] → ∀ v, result = .ok v → ∃ c : Container, v = .multiple c ∧
    (c.baseType = .float ↔ ∃ x, .float x ∈ w) ∧
    ((∃ x, .float x ∈ w) → List.Forall₂ Widens w c.items) ∧
    ((¬ ∃ x, .float x ∈ w) → c.items = w)

/-- A list that is no container has a scalar of another base type. -/
theorem exists_of_ofList_eq_error {u : BaseType} {e : Fault} (h : Container.ofList u w = .error e) :
    ∃ y ∈ w, y.baseType ≠ u ∧ e = .mixedBaseTypes u y.baseType := by
  unfold Container.ofList at h
  split at h
  · rename_i y hy
    cases h
    exact ⟨y, List.mem_of_find?_eq_some hy, by simpa using List.find?_some hy, rfl⟩
  · cases h

theorem exists_float_iff : (∃ x ∈ w, x.baseType = .float) ↔ ∃ z, .float z ∈ w := by
  constructor
  · rintro ⟨x, hx, hfloat⟩
    cases x with
    | float z => exact ⟨z, hx⟩
    | _ => cases hfloat
  · rintro ⟨z, hz⟩
    exact ⟨_, hz, rfl⟩

/-- The values are numbers with a float among them. -/
def NumbersWithFloat (w : List Scalar) : Prop := (∀ x ∈ w, x.IsNumber) ∧ ∃ z, .float z ∈ w

/-- Numbers with a float among them are widened. -/
theorem assembles_numbers (h : NumbersWithFloat w) : Assembles w (multisetOf w) := by
  obtain ⟨hw, z, hz⟩ := h
  have hne : w ≠ [] := List.ne_nil_of_mem hz
  obtain ⟨c, hc, hitems⟩ := multisetOf_of_numbers (fun x hx => isSome_toFloat?_iff.2 (hw x hx)) hz
  have htype : c.baseType = .float := by
    have hmem : widenScalar (.float z) ∈ c.items := hitems ▸ List.mem_map_of_mem hz
    exact (c.homogeneous _ hmem).symm
  have hwidens : List.Forall₂ Widens w (w.map widenScalar) :=
    List.forall₂_map_right_iff.2 (List.forall₂_same.2 fun x hx => widens_widenScalar (hw x hx))
  rw [hc]
  exact
    { null_iff := iff_of_false (by rintro ⟨⟩) hne
      ok_iff := iff_of_true ⟨_, rfl⟩ (.inl hw)
      mixed := fun h => absurd (.inl hw) h
      elements := by
        rintro - _ ⟨⟩
        exact ⟨c, rfl, iff_of_true htype ⟨z, hz⟩, fun _ => hitems ▸ hwidens,
          fun h => absurd ⟨z, hz⟩ h⟩ }

/-- Other values make a container of the base type of the first. -/
theorem multisetOf_cons (h : ¬ NumbersWithFloat (x :: w)) :
    multisetOf (x :: w) = (Container.ofList x.baseType (x :: w)).map .multiple := by
  rw [multisetOf]
  refine if_neg fun hand => h ?_
  rw [Bool.and_eq_true, List.any_eq_true, List.all_eq_true] at hand
  obtain ⟨⟨y, hy, hfloat⟩, hall⟩ := hand
  exact ⟨fun y hy => isSome_toFloat?_iff.1 (hall y hy),
    exists_float_iff.1 ⟨y, hy, of_decide_eq_true hfloat⟩⟩

/-- Values other than numbers with a float among them are taken as they are. -/
theorem assembles_others (h : ¬ NumbersWithFloat (x :: w)) :
    Assembles (x :: w) (multisetOf (x :: w)) := by
  -- Without a float among them, numbers are integers.
  have hcompatible : Compatible (x :: w) → ∀ y ∈ x :: w, y.baseType = x.baseType := by
    rintro (hnum | ⟨t, ht⟩)
    · have hint : ∀ y ∈ x :: w, y.baseType = .integer := fun y hy =>
        (hnum y hy).resolve_right fun hfloat => h ⟨hnum, exists_float_iff.1 ⟨y, hy, hfloat⟩⟩
      exact fun y hy => (hint y hy).trans (hint x List.mem_cons_self).symm
    · exact fun y hy => (ht y hy).trans (ht x List.mem_cons_self).symm
  rw [multisetOf_cons h]
  cases hc : Container.ofList x.baseType (x :: w) with
  | error e =>
    obtain ⟨y, hy, hne, rfl⟩ := exists_of_ofList_eq_error hc
    have hnot : ¬ Compatible (x :: w) := fun hcomp => hne (hcompatible hcomp y hy)
    exact
      { null_iff := iff_of_false (by rintro ⟨⟩) (List.cons_ne_nil x w)
        ok_iff := iff_of_false (by rintro ⟨_, ⟨⟩⟩) hnot
        mixed := fun _ => ⟨x, List.mem_cons_self, y, hy, hne.symm, rfl⟩
        elements := by rintro - _ ⟨⟩ }
  | ok c =>
    obtain ⟨-, hitems⟩ := Container.ofList_eq_ok_iff.1 hc
    have htype : ∀ y ∈ x :: w, y.baseType = c.baseType := fun y hy =>
      c.homogeneous y (hitems ▸ hy)
    have hcomp : Compatible (x :: w) := .inr ⟨c.baseType, htype⟩
    have hnone : c.baseType ≠ .float := fun hfloat =>
      h ⟨fun y hy => .inr ((htype y hy).trans hfloat), exists_float_iff.1
        ⟨x, List.mem_cons_self, (htype x List.mem_cons_self).trans hfloat⟩⟩
    have hno : ¬ ∃ z, .float z ∈ x :: w := fun ⟨z, hz⟩ => hnone (htype _ hz).symm
    exact
      { null_iff := iff_of_false (by rintro ⟨⟩) (List.cons_ne_nil x w)
        ok_iff := iff_of_true ⟨_, rfl⟩ hcomp
        mixed := fun h => absurd hcomp h
        elements := by
          rintro - _ ⟨⟩
          exact ⟨c, rfl, iff_of_false hnone hno, fun h => absurd h hno, fun _ => hitems⟩ }

theorem assembles_multisetOf (w : List Scalar) : Assembles w (multisetOf w) := by
  cases w with
  | nil =>
    exact
      { null_iff := iff_of_true rfl rfl
        ok_iff := iff_of_true ⟨_, rfl⟩ (.inl fun _ hx => absurd hx List.not_mem_nil)
        mixed := fun h => absurd (.inl fun _ hx => absurd hx List.not_mem_nil) h
        elements := fun h => absurd rfl h }
  | cons x w =>
    by_cases h : NumbersWithFloat (x :: w)
    · exact assembles_numbers h
    · exact assembles_others h

/-- **A query for the values of a variable loses, repeats and reorders nothing.** There is one list
of values that the items of a test offer, weighted and in the order of the test, and the query gives
what is made of it. -/
theorem values_assembles (s : TestSession) (f : ItemFilter) (id : String) (t : Option BaseType)
    (weight : Option String) :
    ∃ w, (∀ w', Gathers f id t weight s.items w' ↔ w' = w) ∧
      Assembles w (s.values f id t weight) :=
  ⟨_, fun _ => gathers_iff, assembles_multisetOf _⟩

end TestSession

end Assessment
