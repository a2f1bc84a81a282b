import Assessment.Proofs.Value.WellFormed

/-!
# Values and their JSON forms

A well-formed value is what is read from its JSON form for its cardinality and base type: with its
elements in their order, the parts of its pairs in theirs, and its fields under their names with
their base types.

Reading is `Value::from_json` and writing `Value::to_json`, with `Scalar::from_json` and
`Scalar::to_json` for the elements.

* `Value.ofJson_toJson`: the value is read back.
* `Value.json_roundTrip`: reading gives well-formed values, and gives each of them.
-/

namespace Assessment

open Text Numeric

/-! ## Scalars -/

namespace Scalar

theorem trim_of_trimmed {s : String} (h : Trimmed s.toList) : trim s = s := by
  rw [trim, trimChars_of_trimmed h, String.ofList_toList]

/-- The text of a scalar that has no JSON form of its own is read back. -/
theorem read?_text {s : Scalar} (h : s.WellFormed) (hs : s.toJson = .str s.text) :
    read? s.baseType s.text = some s := by
  cases s with
  | boolean b => cases hs
  | integer n => cases hs
  | float x => cases hs
  | duration x => cases hs
  | string s => rfl
  | file name => rfl
  | identifier name =>
    have hne : name.isEmpty = false := by simpa using h.1
    have hblank : name.toList.any isBlank = false := by simpa using h.2
    simp [read?, text, baseType, trim_of_trimmed (IsWord.trimmed h), hne, hblank]
  | uri address =>
    have hne : address.isEmpty = false := by simpa using h.1
    simp [read?, text, baseType, trim_of_trimmed h.2, hne]
  | point x y =>
    have hx := isWord_integerText x.toInt
    have hy := isWord_integerText y.toInt
    simp only [read?, text, baseType, trim_of_trimmed (trimmed_join hx hy), twoWords?_join hx hy,
      Option.bind_eq_bind, Option.bind_some, readInt64?_integerText, Option.pure_def]
  | pair a b | directedPair a b =>
    simp only [read?, text, baseType, trim_of_trimmed (trimmed_join h.1 h.2),
      twoWords?_join h.1 h.2, Option.map_some]

/-- **The JSON form of a scalar is read back.** -/
theorem ofJson_toJson {s : Scalar} (h : s.WellFormed) : ofJson s.baseType s.toJson = .ok s := by
  have hread (hs : s.toJson = .str s.text) : ofJson s.baseType s.toJson = .ok s := by
    rw [hs]
    show read s.baseType s.text = .ok s
    rw [read, read?_text h hs]
  cases s with
  | boolean b => rfl
  | integer n => simp [toJson, baseType, ofJson]
  | float x => rfl
  | duration x => rfl
  | _ => exact hread rfl

theorem toJson_ne_null (s : Scalar) : s.toJson ≠ .null := by
  cases s <;> exact Json.noConfusion

theorem representable_toJson {s : Scalar} (h : s.WellFormed) : s.toJson.Representable := by
  cases s with
  | integer n => exact ⟨n.le_toInt, n.toInt_lt.trans (by decide)⟩
  | float x => exact h
  | duration x => exact h
  | _ => trivial

end Scalar

/-! ## Values -/

namespace Value

variable {v : Value} {c : Cardinality}

theorem scalarsOfJson_toJson {t : BaseType} : ∀ {items : List Scalar},
    (∀ s ∈ items, s.WellFormed ∧ s.baseType = t) →
      scalarsOfJson t (items.map Scalar.toJson) = .ok items
  | [], _ => rfl
  | s :: rest, h => by
    obtain ⟨⟨hs, rfl⟩, hrest⟩ := List.forall_mem_cons.1 h
    rw [List.map_cons, scalarsOfJson, Scalar.ofJson_toJson hs, scalarsOfJson_toJson hrest]
    rfl

theorem containerOfJson_toJson {c : Container}
    (h : ∀ s ∈ c.items, s.WellFormed ∧ s.baseType = c.baseType) :
    containerOfJson c.baseType (.arr (c.items.map Scalar.toJson)) = .ok c :=
  bind_eq_ok_iff.2 ⟨c.items, scalarsOfJson_toJson h, Container.ofList_eq_ok_iff.2 ⟨rfl, rfl⟩⟩

theorem fieldOfJson_fieldToJson {s : Scalar} (h : s.WellFormed) :
    fieldOfJson (fieldToJson s) = .ok (some s) := by
  have hbase : Table.find? "baseType" [("baseType", Json.str s.baseType.name),
      ("value", s.toJson)] = some (.str s.baseType.name) := by simp [Table.find?]
  have hvalue : Table.find? "value" [("baseType", Json.str s.baseType.name),
      ("value", s.toJson)] = some s.toJson := by simp [Table.find?]
  simp only [fieldToJson, fieldOfJson, hbase, hvalue, choiceName?, Option.bind_some,
    BaseType.ofName?_name]
  split
  · rename_i hnone
    cases hnone
  · rename_i hnull
    exact absurd (Option.some.inj hnull) s.toJson_ne_null
  · rename_i inner hinner
    cases hinner
    rw [Scalar.ofJson_toJson h]
    rfl

/-- The fields of a record are read one after the other, as they are put into a table. -/
theorem fieldsOfJson_toJson : ∀ {l : List (String × Scalar)} {done : Table Scalar},
    (∀ f ∈ l, f.2.WellFormed) →
      fieldsOfJson done (l.map fun f => (f.1, fieldToJson f.2)) =
        .ok (l.foldl (fun t f => t.insert f.1 f.2) done)
  | [], _, _ => rfl
  | (k, s) :: rest, done, h => by
    obtain ⟨hs, hrest⟩ := List.forall_mem_cons.1 h
    rw [List.map_cons, fieldsOfJson, fieldOfJson_fieldToJson hs]
    exact fieldsOfJson_toJson hrest

theorem wellFormed_of_mem_entries {fields : Table Scalar} (h : (Value.record fields).WellFormed) :
    ∀ f ∈ fields.entries, f.2.WellFormed :=
  fun f hf => h f.1 f.2 (Table.get?_eq_some_of_mem hf)

/-- **The JSON form of a value is read back**, for its cardinality, NULL's being any. -/
theorem ofJson_toJson (h : v.WellFormed) (hc : ∀ k, v.cardinality? = some k → k = c) :
    ofJson v.toJson c v.baseType? = .ok v := by
  cases v with
  | null => rfl
  | single s =>
    cases hc _ rfl
    have hnull : s.toJson.isNull = false := by cases s <;> rfl
    rw [toJson, ofJson, if_neg (by simp [hnull])]
    exact bind_eq_ok_iff.2 ⟨_, rfl, bind_eq_ok_iff.2 ⟨s, Scalar.ofJson_toJson h, rfl⟩⟩
  | multiple c | ordered c =>
    cases hc _ rfl
    exact bind_eq_ok_iff.2 ⟨_, rfl, bind_eq_ok_iff.2 ⟨c, containerOfJson_toJson h, rfl⟩⟩
  | record fields =>
    cases hc _ rfl
    refine bind_eq_ok_iff.2 ⟨fields, ?_, rfl⟩
    have : fieldsOfJson .empty _ = _ := fieldsOfJson_toJson (wellFormed_of_mem_entries h)
    rwa [← Table.ofList, Table.ofList_entries] at this

/-- The JSON form of a well-formed value can be written down. -/
theorem representable_toJson (h : v.WellFormed) : v.toJson.Representable := by
  cases v with
  | null => trivial
  | single s => exact Scalar.representable_toJson h
  | multiple c | ordered c =>
    refine Json.itemsRepresentable_iff.2 fun j hj => ?_
    obtain ⟨s, hs, rfl⟩ := List.mem_map.1 hj
    exact Scalar.representable_toJson (h s hs).1
  | record fields =>
    refine Json.fieldsRepresentable_iff.2 fun f hf => ?_
    obtain ⟨e, he, rfl⟩ := List.mem_map.1 hf
    have := Scalar.representable_toJson (wellFormed_of_mem_entries h e he)
    exact ⟨trivial, this, trivial⟩

/-- **Reading and writing values.** What is read from JSON, for any cardinality and base type, is
well formed; and every well-formed value has a JSON form that can be written down and from which it
is read, for its own cardinality and base type. -/
theorem json_roundTrip :
    (∀ (j : Json) (c : Cardinality) (t : Option BaseType) (v : Value),
      j.Representable → ofJson j c t = .ok v → v.WellFormed) ∧
    ∀ (v : Value) (c : Cardinality), v.WellFormed → (∀ k, v.cardinality? = some k → k = c) →
      v.toJson.Representable ∧ ofJson v.toJson c v.baseType? = .ok v :=
  ⟨fun _ _ _ _ hj h => wellFormed_ofJson hj h,
    fun _ _ h hc => ⟨representable_toJson h, ofJson_toJson h hc⟩⟩

end Value

/-- A record as it may be given: a point and a pair in arrays, and a plain number. -/
def givenRecord : Json :=
  .obj [("at", .obj [("baseType", .str "point"), ("value", .arr [.int 3, .int (-4)])]),
    ("joins", .obj [("baseType", .str "pair"), ("value", .arr [.str "A", .str "B"])]),
    ("seconds", .float 1.5)]

/-- The record that is given. -/
def readRecord : Value :=
  .record (Table.ofList [("at", .point 3 (-4)), ("joins", .pair "A" "B"), ("seconds", .float 1.5)])

/-- The record is read from what is given, and again from the form it is written in. -/
theorem readRecord_roundTrip :
    Value.ofJson givenRecord .record none = .ok readRecord ∧
      Value.ofJson readRecord.toJson .record none = .ok readRecord := by
  have hread : Value.ofJson givenRecord .record none = .ok readRecord := by decide +kernel
  have hj : givenRecord.Representable := by
    simp only [givenRecord, Json.Representable, Json.FieldsRepresentable,
      Json.ItemsRepresentable]
    decide
  have hw := Value.json_roundTrip.1 givenRecord .record none readRecord hj hread
  exact ⟨hread, (Value.json_roundTrip.2 readRecord .record hw fun _ hk => by cases hk; rfl).2⟩

end Assessment
