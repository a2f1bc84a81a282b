import Assessment.Proofs.Variable.Finite
import Assessment.Session.Aggregate

/-!
# Finite sessions and their weighted numbers

The numbers that a test session holds may all be finite, and a number of an item times a weight of
it still be too large. A session overflows when such a product is one that a query or a dotted name
gives; then there is a query or a name that gives it.

The products are computed by `weighted`, in `item_variable`, `test_variables` and `outcome_bounds`.

* `TestSession.Overflows`: the products that count.
* `TestSession.Finite.itemVariable`, `TestSession.Finite.values`, `TestSession.Finite.bounds`: what
  a finite session that does not overflow gives is finite.
* `TestSession.Finite.exists_values`, `TestSession.exists_bounds`: what a query gives for a product
  that is not finite.
-/

namespace Assessment

/-! ## Finite sessions -/

/-- The value, the correct response and the normal bounds of a variable are finite. -/
structure SessionVariable.Finite (v : SessionVariable) : Prop where
  value : v.value.Finite
  correct : v.correct.Finite
  normalMinimum : ∀ x, v.normalMinimum = some x → x.isFinite
  normalMaximum : ∀ x, v.normalMaximum = some x → x.isFinite

/-- The variables and the weights of an item are finite. -/
structure ItemSession.Finite (i : ItemSession) : Prop where
  results : ∀ id v, i.results.get? id = some v → v.Finite
  weights : ∀ id w, i.weights.get? id = some w → w.isFinite

/-- All items of a session are finite. -/
def TestSession.Finite (s : TestSession) : Prop := ∀ i ∈ s.items, i.Finite

theorem ItemSession.Finite.value {i : ItemSession} (h : i.Finite) (id : String) :
    (i.value id).Finite := by
  unfold ItemSession.value
  split
  · rename_i v hv
    exact (h.results id v hv).value
  · exact Value.finite_null

/-- The filter that passes every item. -/
def ItemFilter.all : ItemFilter := ⟨none, [], []⟩

theorem ItemFilter.passes_all (i : ItemSession) : ItemFilter.all.passes i := by
  simp [ItemFilter.all, ItemFilter.passes]

namespace TestSession

variable {s : TestSession} {i : ItemSession} {f : ItemFilter} {b : Bound} {id w : String}
  {x : Scalar}

/-! ## Weighting -/

/-- A scalar is weighted by a product, or not at all. -/
theorem weighted_cases (x : Scalar) (w : Float) :
    weighted x w = x ∨ ∃ y, x.toFloat? = some y ∧ weighted x w = .float (y * w) := by
  unfold weighted
  cases h : x.toFloat? with
  | none => exact .inl rfl
  | some y =>
    dsimp only
    split
    · exact .inl rfl
    · exact .inr ⟨y, rfl, rfl⟩

theorem weighted_one (x : Scalar) : weighted x 1.0 = x := by
  have h : ((1.0 : Float) == 1.0) = true := by decide
  unfold weighted
  split
  · rw [if_pos h]
  · rfl

/-! ## Overflow -/

/-- An expression can ask for the values of an item: a query for those of the selected items, a
dotted name for those of the first item of its name. -/
inductive Shows (s : TestSession) (i : ItemSession) : Prop
  | selected : i ∈ s.items → i.selected → Shows s i
  | named {name : String} : '.' ∉ name.toList → s.item? name = some i → Shows s i

/-- A value of an item that is shown, or a normal bound that all items of a query declare, is no
longer finite when it is weighted. -/
inductive Overflows (s : TestSession) : Prop
  | value {i : ItemSession} {id w : String} {x : Scalar} :
      s.Shows i → i.value id = .single x → ¬ (weighted x (i.weight w)).Finite → Overflows s
  | bound {f : ItemFilter} {b : Bound} {id : String} {w : Option String} {i : ItemSession}
      {x : Float} :
      (∀ j ∈ s.select f, (declaredBound? b id j).isSome) → i ∈ s.select f →
      declaredBound? b id i = some x → ¬ (x * i.weightOf w).isFinite → Overflows s

theorem mem_select : i ∈ s.select f ↔ i ∈ s.items ∧ i.selected ∧ f.passes i := by
  simp [select]

theorem Shows.mem (h : s.Shows i) : i ∈ s.items := by
  cases h with
  | selected hi _ => exact hi
  | named _ hi => exact List.mem_of_find?_eq_some hi

/-- A weighted value that a session shows is finite when the session does not overflow. -/
theorem Finite.weighted (h : s.Finite) (ho : ¬ s.Overflows) (hi : s.Shows i)
    (hx : i.value id = .single x) (w : Option String) : (weighted x (i.weightOf w)).Finite := by
  cases w with
  | none =>
    rw [ItemSession.weightOf, weighted_one]
    have := (h i hi.mem).value id
    rw [hx] at this
    exact this x List.mem_cons_self
  | some w => exact Classical.not_not.1 fun hw => ho (.value hi hx hw)

/-! ## What a session without overflow gives -/

/-- **A dotted name gives a finite value.** -/
theorem Finite.itemVariable (h : s.Finite) (ho : ¬ s.Overflows) {item : String}
    (hitem : '.' ∉ item.toList) (id : String) (w : Option String) :
    (s.itemVariable item id w).Finite := by
  unfold TestSession.itemVariable
  split
  · exact Value.finite_null
  · rename_i i hi
    have hshows : s.Shows i := .named hitem hi
    split
    · rename_i x w hx
      exact Value.finite_single (h.weighted ho hshows hx (some w))
    · exact (h i hshows.mem).value id

/-- The elements of a multiset are finite, as they are or as floats. -/
theorem finite_multisetOf {l : List Scalar} (hl : ∀ x ∈ l, x.Finite) :
    Ensures Value.Finite (multisetOf l) := by
  cases l with
  | nil => exact .ok Value.finite_null
  | cons x rest =>
    rw [multisetOf]
    split
    · refine .map (Container.finite_ofList (fun y hy => ?_) _) fun _ hc => hc
      obtain ⟨z, hz, rfl⟩ := List.mem_map.1 hy
      exact finite_widenScalar (hl z hz)
    · exact .map (Container.finite_ofList hl _) fun _ hc => hc

/-- What is collected is the weighted single value of a variable, of the base type asked for. -/
theorem exists_of_collected? {t : Option BaseType} {w : Option String} {y : Scalar}
    (h : collected? id t w i = some y) :
    ∃ x, i.value id = .single x ∧ (∀ u, t = some u → u = x.baseType) ∧
      y = weighted x (i.weightOf w) := by
  unfold collected? at h
  split at h
  · rename_i x hx
    split_ifs at h with ht
    cases h
    refine ⟨x, hx, fun u hu => ?_, rfl⟩
    simpa [hu] using ht
  · cases h

/-- **A query for a variable gives finite values.** -/
theorem Finite.values (h : s.Finite) (ho : ¬ s.Overflows) (f : ItemFilter) (id : String)
    (t : Option BaseType) (w : Option String) : Ensures Value.Finite (s.values f id t w) := by
  refine finite_multisetOf fun y hy => ?_
  obtain ⟨i, hi, hy⟩ := List.mem_filterMap.1 hy
  obtain ⟨x, hx, -, rfl⟩ := exists_of_collected? hy
  obtain ⟨hmem, hsel, -⟩ := mem_select.1 hi
  exact h.weighted ho (.selected hmem hsel) hx w

/-- A rule that may fail gives results for a list exactly when it gives one for each element. -/
theorem mapM_eq_some_iff {α β : Type} {g : α → Option β} :
    ∀ {l : List α} {m : List β},
      l.mapM g = some m ↔ (∀ a ∈ l, (g a).isSome) ∧ m = l.filterMap g
  | [], m => by
    constructor
    · rintro ⟨⟩
      exact ⟨by simp, rfl⟩
    · rintro ⟨-, rfl⟩
      rfl
  | a :: rest, m => by
    rw [List.mapM_cons]
    constructor
    · intro h
      obtain ⟨b, hb, h⟩ := Option.bind_eq_some_iff.1 h
      obtain ⟨bs, hbs, h⟩ := Option.bind_eq_some_iff.1 h
      obtain ⟨hrest, rfl⟩ := mapM_eq_some_iff.1 hbs
      cases h
      refine ⟨List.forall_mem_cons.2 ⟨?_, hrest⟩, ?_⟩
      · rw [hb]
        rfl
      · rw [List.filterMap_cons_some hb]
    · rintro ⟨h, rfl⟩
      obtain ⟨ha, hrest⟩ := List.forall_mem_cons.1 h
      obtain ⟨b, hb⟩ := Option.isSome_iff_exists.1 ha
      rw [hb, mapM_eq_some_iff.2 ⟨hrest, rfl⟩, List.filterMap_cons_some hb]
      rfl

/-- **A query for a normal bound gives finite bounds.** -/
theorem Finite.bounds (ho : ¬ s.Overflows) (f : ItemFilter) (id : String) (b : Bound)
    (w : Option String) : Ensures Value.Finite (s.bounds f id b w) := by
  unfold TestSession.bounds
  dsimp only
  split
  · exact .ok Value.finite_null
  · exact .ok Value.finite_null
  · rename_i values _ hvalues
    obtain ⟨hall, rfl⟩ := mapM_eq_some_iff.1 hvalues
    refine .map (Container.finite_ofList (fun y hy => ?_) _) fun _ hc => hc
    obtain ⟨i, hi, hy⟩ := List.mem_filterMap.1 hy
    obtain ⟨x, hx, rfl⟩ := Option.map_eq_some_iff.1 hy
    refine Classical.not_not.1 fun hw => ho (.bound (fun j hj => ?_) hi hx hw)
    simpa using hall j hj

/-! ## What a session that overflows gives -/

/-- A product that is not finite is a float. -/
theorem exists_weighted_eq (hx : x.Finite) {w : Float} (hw : ¬ (weighted x w).Finite) :
    x.toFloat?.isSome ∧ ∃ z : Float, weighted x w = .float z ∧ ¬ z.isFinite := by
  rcases weighted_cases x w with h | ⟨y, hy, h⟩
  · rw [h] at hw
    exact absurd hx hw
  · rw [h] at hw
    exact ⟨by rw [hy]; rfl, y * w, h, hw⟩

theorem isSome_toFloat?_iff :
    x.toFloat?.isSome ↔ x.baseType = .integer ∨ x.baseType = .float := by
  cases x <;> simp [Scalar.toFloat?, Scalar.baseType]

theorem isSome_toFloat?_weighted (w : Float) (h : x.toFloat?.isSome) :
    (weighted x w).toFloat?.isSome := by
  rcases weighted_cases x w with hw | ⟨y, -, hw⟩
  · rw [hw]
    exact h
  · rw [hw]
    rfl

/-- Numbers with a float among them become the multiset of their doubles. -/
theorem multisetOf_of_numbers {l : List Scalar} (hl : ∀ x ∈ l, x.toFloat?.isSome) {z : Float}
    (hz : .float z ∈ l) :
    ∃ c : Container, multisetOf l = .ok (.multiple c) ∧ c.items = l.map widenScalar := by
  cases l with
  | nil => cases hz
  | cons x rest =>
    have hany : (x :: rest).any (fun v => v.baseType = .float) = true :=
      List.any_eq_true.2 ⟨_, hz, rfl⟩
    have hall : (x :: rest).all (fun v => v.toFloat?.isSome) = true := List.all_eq_true.2 hl
    have hfloat : ∀ s ∈ (x :: rest).map widenScalar, s.baseType = .float := by
      intro s hs
      obtain ⟨y, -, rfl⟩ := List.mem_map.1 hs
      rfl
    obtain ⟨c, hc, hitems⟩ := Container.exists_ofList hfloat
    refine ⟨c, ?_, hitems⟩
    rw [multisetOf, hany, hall, hc]
    rfl

/-- **A query for the values of a variable gives a product that is not finite.** -/
theorem Finite.exists_values (h : s.Finite) (hi : i ∈ s.items) (hsel : i.selected)
    (hx : i.value id = .single x) (hw : ¬ (TestSession.weighted x (i.weight w)).Finite) :
    ∃ v, s.values .all id (some x.baseType) (some w) = .ok v ∧ ¬ v.Finite := by
  have hfin : x.Finite := by
    have := (h i hi).value id
    rw [hx] at this
    exact this x List.mem_cons_self
  obtain ⟨hnum, z, hz, hinf⟩ := exists_weighted_eq hfin hw
  have hmem : .float z ∈ (s.select .all).filterMap (collected? id (some x.baseType) (some w)) := by
    refine List.mem_filterMap.2 ⟨i, mem_select.2 ⟨hi, hsel, ItemFilter.passes_all i⟩, ?_⟩
    rw [← hz]
    simp [collected?, hx, ItemSession.weightOf]
  have hall : ∀ y ∈ (s.select .all).filterMap (collected? id (some x.baseType) (some w)),
      y.toFloat?.isSome := by
    intro y hy
    obtain ⟨j, -, hy⟩ := List.mem_filterMap.1 hy
    obtain ⟨x', -, ht, rfl⟩ := exists_of_collected? hy
    -- All that is collected has the base type of `x`, which is that of a number.
    refine isSome_toFloat?_weighted _ (isSome_toFloat?_iff.2 ?_)
    rw [← ht _ rfl]
    exact isSome_toFloat?_iff.1 hnum
  obtain ⟨c, hc, hitems⟩ := multisetOf_of_numbers hall hmem
  refine ⟨.multiple c, hc, fun hv => hinf ?_⟩
  exact hv (.float z) (by rw [Value.scalars, hitems]; exact List.mem_map.2 ⟨_, hmem, rfl⟩)

/-- **A query for a normal bound gives a product that is not finite.** -/
theorem exists_bounds {w : Option String} {y : Float}
    (hall : ∀ j ∈ s.select f, (declaredBound? b id j).isSome) (hi : i ∈ s.select f)
    (hy : declaredBound? b id i = some y) (hw : ¬ (y * i.weightOf w).isFinite) :
    ∃ v, s.bounds f id b w = .ok v ∧ ¬ v.Finite := by
  let g : ItemSession → Option Scalar := fun j =>
    (declaredBound? b id j).map fun x => Scalar.float (x * j.weightOf w)
  have hmapM : (s.select f).mapM g = some ((s.select f).filterMap g) :=
    mapM_eq_some_iff.2 ⟨fun j hj => by simpa [g] using hall j hj, rfl⟩
  have hmem : .float (y * i.weightOf w) ∈ (s.select f).filterMap g :=
    List.mem_filterMap.2 ⟨i, hi, by simp [g, hy]⟩
  have hfloat : ∀ x ∈ (s.select f).filterMap g, x.baseType = .float := by
    intro x hx
    obtain ⟨j, -, hx⟩ := List.mem_filterMap.1 hx
    obtain ⟨_, -, rfl⟩ := Option.map_eq_some_iff.1 hx
    rfl
  obtain ⟨c, hc, hitems⟩ := Container.exists_ofList hfloat
  have hscalar : .float (y * i.weightOf w) ∈ (Value.multiple c).scalars := by
    rwa [Value.scalars, hitems]
  refine ⟨.multiple c, ?_, fun hv => hw (hv _ hscalar)⟩
  unfold TestSession.bounds
  dsimp only
  split
  · rename_i h
    cases hmapM.symm.trans h
  · rename_i h
    rw [Option.some.inj (hmapM.symm.trans h)] at hmem
    cases hmem
  · rename_i values _ h
    rw [← Option.some.inj (hmapM.symm.trans h), hc]
    rfl

end TestSession

end Assessment
