import Assessment.Json.Reader
import Mathlib.Tactic.SplitIfs

/-!
# JSON values that can be written down

The numbers of JSON are integers of 64 bits, with a sign or without one, and finite doubles. What is
read from a text has no others.

That is what a value of the library that reads JSON can be: a whole number that 64 bits hold, and
else a double, where a text beyond the doubles is refused. Results about reading values assume it of
the JSON value they start from.

* `Json.representable_normalize`: so is the normal form of a value that is.
* `Json.representable_of_parse?`: a value that is read is representable.
-/

namespace Assessment.Json

mutual

/-- All numbers are integers of 64 bits, signed or not, or finite doubles. -/
def Representable : Json → Prop
  | .int n => Int64.minValue.toInt ≤ n ∧ n < UInt64.size
  | .float x => x.isFinite
  | .arr items => ItemsRepresentable items
  | .obj fields => FieldsRepresentable fields
  | _ => True

/-- All numbers of the items are. -/
def ItemsRepresentable : List Json → Prop
  | [] => True
  | j :: rest => Representable j ∧ ItemsRepresentable rest

/-- All numbers of the fields are. -/
def FieldsRepresentable : List (String × Json) → Prop
  | [] => True
  | (_, j) :: rest => Representable j ∧ FieldsRepresentable rest

end

theorem itemsRepresentable_iff : ∀ {items : List Json},
    ItemsRepresentable items ↔ ∀ j ∈ items, j.Representable
  | [] => by simp [ItemsRepresentable]
  | j :: rest => by simp [ItemsRepresentable, @itemsRepresentable_iff rest]

theorem fieldsRepresentable_iff : ∀ {fields : List (String × Json)},
    FieldsRepresentable fields ↔ ∀ f ∈ fields, f.2.Representable
  | [] => by simp [FieldsRepresentable]
  | (k, j) :: rest => by
    simp only [FieldsRepresentable, @fieldsRepresentable_iff rest, List.forall_mem_cons]

/-! ## Normal forms -/

mutual

/-- **The normal form of a representable value is representable.** -/
theorem representable_normalize : ∀ {j : Json}, j.Representable → j.normalize.Representable
  | .arr items, h => by
    rw [normalize]
    exact @itemsRepresentable_normalizeItems items h
  | .obj fields, h => by
    rw [normalize]
    exact @fieldsRepresentable_normalizeFields [] fields trivial h
  | .null, _ | .bool _, _ | .str _, _ => trivial
  | .int _, h | .float _, h => h

theorem itemsRepresentable_normalizeItems : ∀ {items : List Json},
    ItemsRepresentable items → ItemsRepresentable (normalizeItems items)
  | [], _ => trivial
  | _ :: _, h => ⟨representable_normalize h.1, itemsRepresentable_normalizeItems h.2⟩

theorem fieldsRepresentable_normalizeFields : ∀ {done fields : List (String × Json)},
    FieldsRepresentable done → FieldsRepresentable fields →
      FieldsRepresentable (normalizeFields done fields)
  | _, [], hd, _ => hd
  | done, (k, j) :: rest, hd, h => by
    have hj : (normalize j).Representable := representable_normalize h.1
    rw [normalizeFields]
    refine fieldsRepresentable_normalizeFields (fieldsRepresentable_iff.2 fun f hf => ?_) h.2
    rcases Table.mem_insertEntry hf with rfl | hf
    · exact hj
    · exact fieldsRepresentable_iff.1 hd f hf

end

/-! ## What is read -/

open Text

/-- A number without point and exponent is an integer of 64 bits, or a double. -/
theorem wholeNumber_cases (negative : Bool) (n : Nat) :
    (wholeNumber negative n).Representable ∨ ∃ x, wholeNumber negative n = .float x := by
  have hmin : Int64.minValue.toInt = -9223372036854775808 := rfl
  have hsize : UInt64.size = 18446744073709551616 := rfl
  unfold wholeNumber
  split_ifs
  · exact .inr ⟨_, rfl⟩
  · exact .inl ⟨by omega, by omega⟩
  · exact .inr ⟨_, rfl⟩
  · exact .inl ⟨by omega, by omega⟩
  · exact .inr ⟨_, rfl⟩

theorem representable_readNumber? {negative : Bool} {s rest : List Char} {j : Json}
    (h : readNumber? negative s = some (j, rest)) : j.Representable := by
  simp only [readNumber?, Option.bind_eq_bind, Option.bind_eq_some_iff] at h
  obtain ⟨⟨whole, s₁⟩, -, ⟨fraction, s₂⟩, -, ⟨power, s₃⟩, -, h⟩ := h
  split at h
  · -- A double is given only when it is finite.
    rename_i x hx
    rw [hx] at h
    split_ifs at h with hfinite
    cases h
    exact hfinite
  · rename_i hne
    cases h
    split_ifs at hne ⊢
    · rcases wholeNumber_cases _ _ with h | ⟨x, hx⟩
      · exact h
      · exact absurd hx (hne x)
    · exact absurd rfl (hne _)
    · exact absurd rfl (hne _)

mutual

theorem representable_readValue? : ∀ {fuel depth : Nat} {s rest : List Char} {j : Json},
    readValue? fuel depth s = some (j, rest) → j.Representable
  | 0, _, _, _, _, h => by cases h
  | fuel + 1, depth, s, rest, j, h => by
    unfold readValue? at h
    split at h
    · cases h
      trivial
    · cases h
      trivial
    · cases h
      trivial
    · obtain ⟨_, -, h⟩ := Option.map_eq_some_iff.1 h
      cases h
      trivial
    · exact representable_readNumber? h
    · split_ifs at h
      split at h
      · cases h
        trivial
      · obtain ⟨⟨items, tail⟩, hitems, h⟩ := Option.map_eq_some_iff.1 h
        cases h
        exact representable_readItems? hitems
    · split_ifs at h
      split at h
      · cases h
        trivial
      · obtain ⟨⟨fields, tail⟩, hfields, h⟩ := Option.map_eq_some_iff.1 h
        cases h
        exact representable_readFields? hfields
    · exact representable_readNumber? h

theorem representable_readItems? : ∀ {fuel depth : Nat} {s rest : List Char} {items : List Json},
    readItems? fuel depth s = some (items, rest) → ItemsRepresentable items
  | 0, _, _, _, _, h => by cases h
  | fuel + 1, depth, s, rest, items, h => by
    simp only [readItems?, Option.bind_eq_bind, Option.bind_eq_some_iff] at h
    obtain ⟨⟨j, s₁⟩, hj, h⟩ := h
    split at h
    · obtain ⟨⟨more, tail⟩, hmore, h⟩ := Option.bind_eq_some_iff.1 h
      cases h
      exact ⟨representable_readValue? hj, representable_readItems? hmore⟩
    · cases h
      exact ⟨representable_readValue? hj, trivial⟩
    · cases h

theorem representable_readFields? :
    ∀ {fuel depth : Nat} {s rest : List Char} {fields : List (String × Json)},
      readFields? fuel depth s = some (fields, rest) → FieldsRepresentable fields
  | 0, _, _, _, _, h => by cases h
  | fuel + 1, depth, s, rest, fields, h => by
    unfold readFields? at h
    split at h
    · obtain ⟨⟨key, s₁⟩, -, h⟩ := Option.bind_eq_some_iff.1 h
      dsimp only at h
      split at h
      · obtain ⟨⟨j, s₂⟩, hj, h⟩ := Option.bind_eq_some_iff.1 h
        split at h
        · obtain ⟨⟨more, tail⟩, hmore, h⟩ := Option.bind_eq_some_iff.1 h
          cases h
          exact ⟨representable_readValue? hj, representable_readFields? hmore⟩
        · cases h
          exact ⟨representable_readValue? hj, trivial⟩
        · cases h
      · cases h
    · cases h

end

/-- **What is read from a text is representable.** -/
theorem representable_of_parse? {text : String} {j : Json} (h : parse? text = some j) :
    j.Representable := by
  unfold parse? at h
  dsimp only at h
  split at h
  · rename_i hread
    split_ifs at h
    cases h
    exact representable_readValue? hread
  · cases h

end Assessment.Json
