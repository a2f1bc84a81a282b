import Assessment.Proofs.Result
import Assessment.Variable.Basic
import Mathlib.Tactic.SplitIfs

/-!
# Values that fit a signature

A value fits a signature when it is NULL, or has exactly its cardinality and base type. `conform`
makes values fit and leaves those alone that fit already; `Value.ofJson` reads values that fit.

What fits is what `conform` leaves alone; the difference to what it takes is widening.

* `conform_fits`, `conform_of_fits`: what comes out of `conform` fits, and a value that fits is what
  comes out for it.
* `fits_ofJson`: what is read for a signature fits it.
-/

namespace Assessment

variable {id : String} {g : Signature} {v w : Value} {t : BaseType}

/-- A value has the cardinality and the base type of a signature, and so have the elements of a
container. -/
structure Value.Has (v : Value) (g : Signature) : Prop where
  cardinality : v.cardinality? = some g.cardinality
  baseType : ∀ t, g.baseType = some t → v.baseType? = some t
  elements : ∀ c, v.container? = some c → ∀ x ∈ c.items, x.baseType = c.baseType

/-- A value fits a signature: it is NULL, or of that very type. -/
def Value.Fits (v : Value) (g : Signature) : Prop := v = .null ∨ v.Has g

/-- A record has no base type, and every other cardinality has one. -/
def Signature.Proper (g : Signature) : Prop := g.baseType = none ↔ g.cardinality = .record

theorem Value.fits_null (g : Signature) : Value.null.Fits g := .inl rfl

/-- The elements of a container have its base type, whatever the signature. -/
theorem Value.has_iff :
    v.Has g ↔ v.cardinality? = some g.cardinality ∧
      ∀ t, g.baseType = some t → v.baseType? = some t :=
  ⟨fun h => ⟨h.cardinality, h.baseType⟩, fun h => ⟨h.1, h.2, fun c _ => c.homogeneous⟩⟩

theorem Value.cardinality?_eq_none_iff : v.cardinality? = none ↔ v = .null := by
  cases v <;> simp [cardinality?]

/-! ## Fitting to a base type -/

theorem Scalar.baseType_conform? {s s' : Scalar} (h : s.conform? t = some s') :
    s'.baseType = t := by
  unfold conform? at h
  split at h
  · cases h
    rfl
  · split_ifs at h with he
    cases h
    exact he

theorem Scalar.conform?_baseType (s : Scalar) : s.conform? s.baseType = some s := by
  cases s <;> rfl

theorem Container.baseType_conform? {c c' : Container} (h : c.conform? t = some c') :
    c'.baseType = t := by
  unfold conform? at h
  split_ifs at h with hw he
  · cases h
    exact hw.2.symm
  · cases h
    exact he

theorem Container.conform?_baseType (c : Container) : c.conform? c.baseType = some c := by
  have : ¬ (c.baseType = .integer ∧ c.baseType = .float) := by
    rintro ⟨hi, hf⟩
    rw [hi] at hf
    cases hf
  rw [conform?, if_neg this, if_pos rfl]

theorem Value.cardinality?_conform? (h : v.conform? t = some w) :
    w.cardinality? = v.cardinality? := by
  cases v with
  | null | record _ =>
    cases h
    rfl
  | single _ | multiple _ | ordered _ =>
    obtain ⟨_, _, rfl⟩ := Option.map_eq_some_iff.1 h
    rfl

theorem Value.baseType?_conform? (h : v.conform? t = some w) (hv : v ≠ .null)
    (hr : v.cardinality? ≠ some .record) : w.baseType? = some t := by
  cases v with
  | null => exact absurd rfl hv
  | record _ => exact absurd rfl hr
  | single s =>
    obtain ⟨s', hs, rfl⟩ := Option.map_eq_some_iff.1 h
    exact congrArg some (Scalar.baseType_conform? hs)
  | multiple c | ordered c =>
    obtain ⟨c', hc, rfl⟩ := Option.map_eq_some_iff.1 h
    exact congrArg some (Container.baseType_conform? hc)

/-- A value of a base type already is left alone. -/
theorem Value.conform?_of_baseType? (h : v.baseType? = some t) : v.conform? t = some v := by
  cases v with
  | null | record _ => cases h
  | single s =>
    cases h
    exact Option.map_eq_some_iff.2 ⟨s, s.conform?_baseType, rfl⟩
  | multiple c | ordered c =>
    cases h
    exact Option.map_eq_some_iff.2 ⟨c, c.conform?_baseType, rfl⟩

/-! ## Fitting to a signature -/

/-- What a variable takes fits its signature. -/
theorem conform_fits (hg : g.cardinality = .record → g.baseType = none)
    (h : conform id v g = .ok w) : w.Fits g := by
  simp only [conform] at h
  split_ifs at h with hn hc
  · cases h
    exact .inl (Value.cardinality?_eq_none_iff.1 hn)
  · have hc : v.cardinality? = some g.cardinality := Decidable.not_not.1 hc
    have hv : v ≠ .null := fun e => hn (Value.cardinality?_eq_none_iff.2 e)
    refine .inr (Value.has_iff.2 ?_)
    split at h
    · rename_i hb
      cases h
      exact ⟨hc, fun t ht => by rw [hb] at ht; cases ht⟩
    · rename_i t hb
      split at h
      · rename_i w' hw
        cases h
        refine ⟨(Value.cardinality?_conform? hw).trans hc, fun t' ht' => ?_⟩
        have hr : v.cardinality? ≠ some .record := by
          rw [hc]
          intro hr
          rw [hg (Option.some.inj hr)] at hb
          cases hb
        rw [Value.baseType?_conform? hw hv hr, ← hb, ht']
      · cases h

/-- A variable takes a value that fits as it is. -/
theorem conform_of_fits (h : v.Fits g) : conform id v g = .ok v := by
  simp only [conform]
  rcases h with rfl | h
  · rfl
  · have hn : v.cardinality? ≠ none := by
      rw [h.cardinality]
      exact Option.some_ne_none _
    rw [if_neg hn, if_neg (not_not_intro h.cardinality)]
    cases hb : g.baseType with
    | none => rfl
    | some t =>
      dsimp only
      rw [Value.conform?_of_baseType? (h.baseType t hb)]

/-! ## Reading -/

theorem baseType_containerOfJson {j : Json} {c : Container}
    (h : Value.containerOfJson t j = .ok c) : c.baseType = t := by
  unfold Value.containerOfJson at h
  split at h <;>
    · obtain ⟨items, -, h⟩ := bind_eq_ok_iff.1 h
      exact (Container.ofList_eq_ok_iff.1 h).1

theorem requireBaseType_eq_ok_iff {k : Cardinality} {b : Option BaseType} :
    Value.requireBaseType k b = .ok t ↔ b = some t := by
  cases b <;> simp [Value.requireBaseType]

/-- What is read for a signature fits it. -/
theorem fits_ofJson {j : Json} (hg : g.Proper)
    (h : Value.ofJson j g.cardinality g.baseType = .ok v) : v.Fits g := by
  obtain ⟨k, b⟩ := g
  unfold Value.ofJson at h
  split_ifs at h
  · cases h
    exact .inl rfl
  · refine .inr (Value.has_iff.2 ?_)
    cases k with
    | single =>
      obtain ⟨t, ht, h⟩ := bind_eq_ok_iff.1 h
      obtain ⟨s, hs, h⟩ := bind_eq_ok_iff.1 h
      cases h
      cases requireBaseType_eq_ok_iff.1 ht
      refine ⟨rfl, fun t' ht' => ?_⟩
      cases ht'
      exact congrArg some (Scalar.baseType_ofJson hs)
    | multiple | ordered =>
      obtain ⟨t, ht, h⟩ := bind_eq_ok_iff.1 h
      obtain ⟨c, hc, h⟩ := bind_eq_ok_iff.1 h
      cases h
      cases requireBaseType_eq_ok_iff.1 ht
      refine ⟨rfl, fun t' ht' => ?_⟩
      cases ht'
      exact congrArg some (baseType_containerOfJson hc)
    | record =>
      have hb : b = none := hg.2 rfl
      dsimp only at h
      split at h
      · obtain ⟨fields, -, h⟩ := bind_eq_ok_iff.1 h
        cases h
        exact ⟨rfl, fun t ht => by rw [show b = some t from ht] at hb; cases hb⟩
      · cases h

end Assessment
