import Assessment.Proofs.Json.Representable
import Assessment.Proofs.Numeric.Finite
import Assessment.Proofs.Result
import Assessment.Proofs.Text.Word
import Assessment.Value.Basic

/-!
# Well-formed values

A value is well formed when its floats and durations are finite, its identifiers and the parts of
its pairs are words, and its addresses are trimmed texts that are not empty. Values that are read
from JSON are well formed.

These are the conditions that `Scalar::parse` and `Scalar::from_json` put on a literal; a value that
a program computes may lie outside them only where a custom operator gives it.

* `Value.wellFormed_ofJson`: what is read, for any cardinality and base type, is well formed.
-/

namespace Assessment

open Text Numeric

variable {t : BaseType} {j : Json}

/-! ## Scalars -/

/-- What a scalar of a base type is that has a JSON form of its own. -/
def Scalar.WellFormed : Scalar → Prop
  | .float x | .duration x => x.isFinite
  | .identifier name => IsWord name.toList
  | .pair a b | .directedPair a b => IsWord a.toList ∧ IsWord b.toList
  | .uri address => address ≠ "" ∧ Trimmed address.toList
  | _ => True

/-- What is read from a text is well formed. -/
theorem Scalar.wellFormed_read? {literal : String} {s : Scalar} (h : read? t literal = some s) :
    s.WellFormed := by
  have htrim : Trimmed (trim literal).toList := by
    rw [trim, String.toList_ofList]
    exact trimmed_trimChars _
  cases t <;> simp only [read?] at h
  case identifier =>
    split_ifs at h with hword
    cases h
    simp only [Bool.or_eq_true, not_or, List.any_eq_true, not_exists, not_and] at hword
    exact ⟨by simpa using hword.1, fun c hc => by simpa using hword.2 c hc⟩
  case boolean =>
    split_ifs at h <;> cases h <;> trivial
  case integer =>
    obtain ⟨n, -, rfl⟩ := Option.map_eq_some_iff.1 h
    trivial
  case float | duration =>
    obtain ⟨x, hx, rfl⟩ := Option.map_eq_some_iff.1 h
    exact (Option.filter_eq_some_iff.1 hx).2
  case string | file =>
    cases h
    trivial
  case point =>
    simp only [Option.bind_eq_bind, Option.bind_eq_some_iff] at h
    obtain ⟨⟨a, b⟩, -, x, -, y, -, h⟩ := h
    cases h
    trivial
  case pair | directedPair =>
    obtain ⟨⟨a, b⟩, hab, rfl⟩ := Option.map_eq_some_iff.1 h
    exact isWord_of_twoWords? hab
  case uri =>
    split_ifs at h with hne
    cases h
    exact ⟨by simpa using hne, htrim⟩

theorem Scalar.wellFormed_read {literal : String} {s : Scalar} (h : read t literal = .ok s) :
    s.WellFormed := by
  unfold read at h
  split at h
  · rename_i hs
    cases h
    exact wellFormed_read? hs
  · cases h

theorem isFinite_of_representable {n : Int} (h : (Json.int n).Representable) :
    (Float.ofInt n).isFinite := by
  obtain ⟨h₁, h₂⟩ : (-9223372036854775808 : Int) ≤ n ∧ n < 18446744073709551616 := h
  exact isFinite_ofInt (by omega)

/-- What is read from JSON is well formed. -/
theorem Scalar.wellFormed_ofJson {s : Scalar} (hj : j.Representable) (h : ofJson t j = .ok s) :
    s.WellFormed := by
  unfold ofJson at h
  dsimp only at h
  split at h
  · exact wellFormed_read h
  · split_ifs at h
    cases h
    trivial
  · split at h
    · split at h
      · cases h
        trivial
      · cases h
    · cases h
      exact isFinite_of_representable hj
    · cases h
      exact isFinite_of_representable hj
    · cases h
  · split at h
    · cases h
      exact hj
    · cases h
      exact hj
    · cases h
  · split at h
    · cases h
    · split at h
      · exact wellFormed_read h
      · exact wellFormed_read h
      · exact wellFormed_read h
      · cases h
  · cases h

/-! ## Values -/

namespace Value

/-- A value with well-formed scalars; those of a container have its base type. -/
def WellFormed : Value → Prop
  | .null => True
  | .single s => s.WellFormed
  | .multiple c | .ordered c => ∀ s ∈ c.items, s.WellFormed ∧ s.baseType = c.baseType
  | .record fields => ∀ name s, fields.get? name = some s → s.WellFormed

theorem wellFormed_of_mem_scalarsOfJson : ∀ {items : List Json} {scalars : List Scalar},
    (∀ j ∈ items, j.Representable) → scalarsOfJson t items = .ok scalars →
      ∀ s ∈ scalars, s.WellFormed
  | [], _, _, h => by
    cases h
    simp
  | j :: rest, _, hj, h => by
    obtain ⟨s, hs, h⟩ := bind_eq_ok_iff.1 h
    obtain ⟨ss, hss, h⟩ := bind_eq_ok_iff.1 h
    cases h
    obtain ⟨hj, hrest⟩ := List.forall_mem_cons.1 hj
    exact List.forall_mem_cons.2
      ⟨Scalar.wellFormed_ofJson hj hs, wellFormed_of_mem_scalarsOfJson hrest hss⟩

theorem wellFormed_containerOfJson {c : Container} (hj : j.Representable)
    (h : containerOfJson t j = .ok c) : ∀ s ∈ c.items, s.WellFormed ∧ s.baseType = c.baseType := by
  intro s hs
  refine ⟨?_, c.homogeneous s hs⟩
  unfold containerOfJson at h
  split at h
  · obtain ⟨items, hitems, h⟩ := bind_eq_ok_iff.1 h
    rw [(Container.ofList_eq_ok_iff.1 h).2] at hs
    exact wellFormed_of_mem_scalarsOfJson (Json.itemsRepresentable_iff.1 hj) hitems s hs
  · obtain ⟨items, hitems, h⟩ := bind_eq_ok_iff.1 h
    obtain ⟨x, hx, rfl⟩ := map_eq_ok_iff.1 hitems
    rw [(Container.ofList_eq_ok_iff.1 h).2] at hs
    cases List.mem_singleton.1 hs
    exact Scalar.wellFormed_ofJson hj hx

theorem wellFormed_fieldOfJson {s : Scalar} (hj : j.Representable)
    (h : fieldOfJson j = .ok (some s)) : s.WellFormed := by
  unfold fieldOfJson at h
  split at h
  · cases h
  · cases h
    trivial
  · split at h
    · cases h
      trivial
    · cases h
      exact isFinite_of_representable hj
  · cases h
    exact hj
  · cases h
    trivial
  · cases h
  · rename_i fields
    split at h
    · cases h
    · split at h
      · cases h
      · split at h
        · cases h
        · cases h
        · rename_i inner hinner
          obtain ⟨x, hx, hs⟩ := map_eq_ok_iff.1 h
          cases hs
          have hmem := Table.mem_of_find?_eq_some hinner
          exact Scalar.wellFormed_ofJson (Json.fieldsRepresentable_iff.1 hj _ hmem) hx

/-- The fields read so far stay well formed. -/
theorem wellFormed_fieldsOfJson : ∀ {l : List (String × Json)} {done fields : Table Scalar},
    (∀ f ∈ l, f.2.Representable) → (Value.record done).WellFormed →
      fieldsOfJson done l = .ok fields → (Value.record fields).WellFormed
  | [], _, _, _, hd, h => by
    cases h
    exact hd
  | (k, j) :: rest, done, fields, hl, hd, h => by
    obtain ⟨hj, hrest⟩ := List.forall_mem_cons.1 hl
    obtain ⟨r, hr, h⟩ := bind_eq_ok_iff.1 h
    cases r with
    | none => exact wellFormed_fieldsOfJson hrest hd h
    | some x =>
      refine wellFormed_fieldsOfJson hrest (fun name s hs => ?_) h
      rw [Table.get?_insert] at hs
      split_ifs at hs
      · cases hs
        exact wellFormed_fieldOfJson hj hr
      · exact hd name s hs

/-- **What is read from JSON is well formed**, for every cardinality and base type. -/
theorem wellFormed_ofJson {v : Value} {c : Cardinality} {t : Option BaseType}
    (hj : j.Representable) (h : ofJson j c t = .ok v) : v.WellFormed := by
  unfold ofJson at h
  split_ifs at h
  · cases h
    trivial
  · cases c with
    | single =>
      obtain ⟨t, -, h⟩ := bind_eq_ok_iff.1 h
      obtain ⟨s, hs, h⟩ := bind_eq_ok_iff.1 h
      cases h
      exact Scalar.wellFormed_ofJson hj hs
    | multiple | ordered =>
      obtain ⟨t, -, h⟩ := bind_eq_ok_iff.1 h
      obtain ⟨c, hc, h⟩ := bind_eq_ok_iff.1 h
      cases h
      exact wellFormed_containerOfJson hj hc
    | record =>
      dsimp only at h
      split at h
      · obtain ⟨fields, hfields, h⟩ := bind_eq_ok_iff.1 h
        cases h
        refine wellFormed_fieldsOfJson (Json.fieldsRepresentable_iff.1 hj) (fun name s hs => ?_)
          hfields
        cases hs
      · cases h

end Value

end Assessment
