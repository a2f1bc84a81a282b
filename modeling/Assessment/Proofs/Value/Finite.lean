import Assessment.Proofs.Value.WellFormed

/-!
# Finite values

A value is finite when its floats and durations are, wherever in it they stand. The values that are
built from a number that may be out of range are finite always: NULL takes the place of the number.
So are values that are read from JSON.

The first constructor is `Value::float`, the second the optional result of a numeric helper.

* `Value.finite_ofFloat`, `Value.finite_ofFloat?`: a float that is not finite never becomes a value.
* `Value.WellFormed.finite`: well-formed values are finite.
-/

namespace Assessment

/-! ## Scalars -/

/-- A float or a duration is finite, and all else is. -/
def Scalar.Finite : Scalar → Prop
  | .float x | .duration x => x.isFinite
  | _ => True

instance : DecidablePred Scalar.Finite
  | .float x | .duration x => inferInstanceAs (Decidable (x.isFinite = true))
  | .identifier _ | .boolean _ | .integer _ | .string _ | .point _ _ | .pair _ _
  | .directedPair _ _ | .file _ | .uri _ => inferInstanceAs (Decidable True)

theorem Scalar.WellFormed.finite : ∀ {s : Scalar}, s.WellFormed → s.Finite
  | .float _, h | .duration _, h => h
  | .identifier _, _ | .boolean _, _ | .integer _, _ | .string _, _ | .point _ _, _ | .pair _ _, _
  | .directedPair _ _, _ | .file _, _ | .uri _, _ => trivial

/-- The number that a finite scalar holds is finite. -/
theorem Scalar.Finite.isFinite_toFloat? {s : Scalar} {x : Float} (hs : s.Finite)
    (h : s.toFloat? = some x) : x.isFinite := by
  cases s with
  | integer n =>
    cases h
    exact Numeric.isFinite_toFloat n
  | float y =>
    cases h
    exact hs
  | _ => cases h

/-- A container of finite scalars has finite elements. -/
theorem Container.finite_ofList {items : List Scalar} (h : ∀ s ∈ items, s.Finite) (t : BaseType) :
    Ensures (fun c : Container => ∀ s ∈ c.items, s.Finite) (ofList t items) := by
  intro c hc
  rw [(ofList_eq_ok_iff.1 hc).2]
  exact h

/-! ## Values -/

namespace Value

/-- The scalars in a value. -/
def scalars : Value → List Scalar
  | .null => []
  | .single s => [s]
  | .multiple c | .ordered c => c.items
  | .record fields => fields.values

/-- The floats and durations in a value are finite. -/
def Finite (v : Value) : Prop := ∀ s ∈ v.scalars, s.Finite

instance (v : Value) : Decidable v.Finite :=
  inferInstanceAs (Decidable (∀ s ∈ v.scalars, s.Finite))

theorem finite_null : null.Finite := by
  simp [Finite, scalars]

theorem finite_single {s : Scalar} (h : s.Finite) : (single s).Finite := by
  simpa [Finite, scalars] using h

theorem finite_ofInt64 (n : Int64) : (ofInt64 n).Finite := finite_single trivial

theorem finite_ofBool (b : Bool) : (ofBool b).Finite := finite_single trivial

/-- A float becomes a value only when it is finite. -/
theorem finite_ofFloat (x : Float) : (ofFloat x).Finite := by
  unfold ofFloat
  split
  · rename_i h
    exact finite_single h
  · exact finite_null

theorem finite_ofInt64? : ∀ o, (ofInt64? o).Finite
  | none => finite_null
  | some n => finite_ofInt64 n

theorem finite_ofFloat? : ∀ o, (ofFloat? o).Finite
  | none => finite_null
  | some x => finite_ofFloat x

theorem finite_ofScalar? {o : Option Scalar} (h : ∀ s, o = some s → s.Finite) :
    (ofScalar? o).Finite := by
  cases o with
  | none => exact finite_null
  | some s => exact finite_single (h s rfl)

theorem Finite.of_get? {fields : Table Scalar} {name : String} {s : Scalar}
    (h : (record fields).Finite) (hs : fields.get? name = some s) : s.Finite :=
  h s (List.mem_map.2 ⟨(name, s), Table.mem_of_find?_eq_some hs, rfl⟩)

/-- **Well-formed values are finite**, those that are read from JSON among them. -/
theorem WellFormed.finite {v : Value} (h : v.WellFormed) : v.Finite := by
  intro s hs
  cases v with
  | null => cases hs
  | single x =>
    cases List.mem_singleton.1 hs
    exact Scalar.WellFormed.finite h
  | multiple c | ordered c => exact (h s hs).1.finite
  | record fields =>
    obtain ⟨⟨name, x⟩, hmem, rfl⟩ := List.mem_map.1 hs
    exact (h name x (Table.get?_eq_some_of_mem hmem)).finite

end Value

end Assessment
