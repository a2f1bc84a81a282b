import Assessment.Interchange.Reading
import Assessment.Proofs.Json.Representable
import Assessment.Proofs.Result

/-!
# What decoders and readings ensure

`Decoder.Ensures P d` says that what `d` reads from a representable JSON value has the property `P`,
and `Reading.Ensures` says it of the fields of an object. There is one lemma for each way to put
decoders and readings together.

Deserialization is built from a few combinators, and a property of what is read follows the way in
which the reading was put together. So a proof about a document is as long as the rule that reads
it.

* `Reading.Ensures.seq`, `Reading.Ensures.map`: readings that are put together.
* `Reading.Ensures.required`, `Reading.Ensures.option`, `Reading.Ensures.list`: fields.
* `Decoder.Ensures.record`, `Decoder.Ensures.tagged`: objects.
-/

namespace Assessment.Interchange

variable {α β : Type} {P : α → Prop} {Q : β → Prop}

/-- What a rule reads from a representable value has a property. -/
def Decoder.Ensures (P : α → Prop) (d : Decoder α) : Prop :=
  ∀ j : Json, j.Representable → Assessment.Ensures P (d j)

/-- What a rule reads from representable fields has a property. -/
def Reading.Ensures (P : α → Prop) (r : Reading α) : Prop :=
  ∀ fields : List (String × Json), (∀ f ∈ fields, f.2.Representable) →
    Assessment.Ensures P (r fields)

/-! ## Fields -/

theorem mem_of_locate {name : String} {place : Nat} {j : Json} {rest : List (String × Json)} :
    ∀ {i : Nat} {fields : List (String × Json)},
      locate name i fields = some (place, j, rest) → (name, j) ∈ fields
  | _, [], h => by cases h
  | i, (k, v) :: more, h => by
    rw [locate] at h
    split at h
    · rename_i hk
      cases h
      rw [hk]
      exact List.mem_cons_self
    · exact List.mem_cons_of_mem _ (mem_of_locate h)

namespace Reading.Ensures

theorem pure {a : α} (h : P a) : Ensures P (Pure.pure a : Reading α) := fun _ _ => .ok h

/-- Two readings together give the value of a function that both have given. -/
theorem seq {f : Reading (α → β)} {x : Reading α} (hf : Ensures (fun g => ∀ a, P a → Q (g a)) f)
    (hx : Ensures P x) : Ensures Q (f <*> x) := by
  intro fields hfields b h
  have hcombine : combine (f fields) (x fields) = .ok b := h
  cases hg : f fields with
  | error e =>
    rw [hg] at hcombine
    cases hr : x fields <;> rw [hr] at hcombine <;> cases hcombine
  | ok g =>
    cases hr : x fields with
    | error e =>
      rw [hg, hr] at hcombine
      cases hcombine
    | ok a =>
      rw [hg, hr] at hcombine
      cases hcombine
      exact hf fields hfields g hg a (hx fields hfields a hr)

theorem map {g : α → β} {x : Reading α} (hx : Ensures P x) (hg : ∀ a, P a → Q (g a)) :
    Ensures Q (g <$> x) :=
  seq (pure hg) hx

/-- What a function gives for every value, whatever is read. -/
theorem map_forall {g : α → β} (hg : ∀ a, Q (g a)) (x : Reading α) : Ensures Q (g <$> x) :=
  map (P := fun _ => True) (fun _ _ _ _ => trivial) fun a _ => hg a

/-- What a function that is read gives for every value, whatever the value is. -/
theorem seq_forall {f : Reading (α → β)} (hf : Ensures (fun g => ∀ a, Q (g a)) f)
    (x : Reading α) : Ensures Q (f <*> x) :=
  seq (P := fun _ => True) (fun fields hfields g hg a _ => hf fields hfields g hg a)
    fun _ _ _ _ => trivial

theorem optional? {d : Decoder α} (hd : Decoder.Ensures P d) (name : String) :
    Ensures (fun o => ∀ a, o = some a → P a) (optional? name d) := by
  intro fields hfields o h
  unfold Reading.optional? at h
  split at h
  · cases h
    nofun
  · rename_i place j rest hlocate
    split at h
    · cases h
    · rename_i a ha
      split at h
      · cases h
      · cases h
        rintro _ ⟨⟩
        exact hd j (hfields _ (mem_of_locate hlocate)) a ha

theorem required {d : Decoder α} (hd : Decoder.Ensures P d) (name : String) :
    Ensures P (required name d) := by
  intro fields hfields a h
  unfold Reading.required at h
  split at h
  · rename_i ha
    cases h
    exact optional? hd name fields hfields _ ha a rfl
  · cases h
  · cases h

theorem optional {d : Decoder α} (hd : Decoder.Ensures P d) (name : String) {default : α}
    (h : P default) : Ensures P (optional name default d) := by
  refine map (optional? hd name) fun o ho => ?_
  cases o with
  | none => exact h
  | some a => exact ho a rfl

theorem andThen {r : Reading α} {f : α → Except Refusal β} (hr : Ensures P r)
    (hf : ∀ a, P a → Assessment.Ensures Q (f a)) : Ensures Q (r.andThen f) := by
  intro fields hfields b h
  unfold Reading.andThen at h
  split at h
  · cases h
  · rename_i a ha
    split at h
    · rename_i hb
      cases h
      exact hf a (hr fields hfields a ha) b hb
    · cases h

theorem run {r : Reading α} (h : Ensures P r) {fields : List (String × Json)}
    (hfields : ∀ f ∈ fields, f.2.Representable) : Assessment.Ensures P (r.run fields) := by
  intro a ha
  unfold Reading.run at ha
  split at ha
  · rename_i hr
    cases ha
    exact h fields hfields a hr
  · cases ha

end Reading.Ensures

/-! ## Values -/

namespace Decoder.Ensures

variable {d : Decoder α}

theorem raw : Ensures Json.Representable raw := fun _ hj => .ok (Json.representable_normalize hj)

theorem nullable (hd : Ensures P d) :
    Ensures (fun o => ∀ a, o = some a → P a) (nullable d) := by
  intro j hj
  unfold Interchange.nullable
  split
  · exact .ok (by nofun)
  · refine .map (hd _ hj) fun a ha => ?_
    rintro _ ⟨⟩
    exact ha

theorem items (hd : Ensures P d) : ∀ {l : List Json}, (∀ j ∈ l, j.Representable) →
    Assessment.Ensures (fun as => ∀ a ∈ as, P a) (items d l)
  | [], _ => .ok (by simp)
  | j :: rest, h => by
    obtain ⟨hj, hrest⟩ := List.forall_mem_cons.1 h
    refine .bind (hd j hj) fun a ha => .bind (items hd hrest) fun as has => .ok ?_
    exact List.forall_mem_cons.2 ⟨ha, has⟩

theorem listOf (hd : Ensures P d) : Ensures (fun as => ∀ a ∈ as, P a) (listOf d) := by
  intro j hj
  unfold Interchange.listOf
  split
  · exact items hd (Json.itemsRepresentable_iff.1 hj)
  · exact .error _

theorem pairOf (hd : Ensures P d) : Ensures (fun p => P p.1 ∧ P p.2) (pairOf d) := by
  intro j hj
  unfold Interchange.pairOf
  split
  · rename_i a b rest
    refine .bind (hd a hj.1) fun x hx => .bind (hd b hj.2.1) fun y hy => ?_
    split
    · exact .ok ⟨hx, hy⟩
    · exact .error _
  · exact .bind_right fun _ => .error _
  · exact .error _

/-- An object, or an array of the values of its fields. -/
theorem record {names : List String} {r : Reading α} (h : r.Ensures P) :
    Ensures P (record names r) := by
  intro j hj
  unfold Interchange.record
  split
  · exact h.run (Json.fieldsRepresentable_iff.1 hj)
  · split
    · exact h.run fun f hf => Json.itemsRepresentable_iff.1 hj _ (List.of_mem_zip hf).2
    · exact .error _
  · exact .error _

/-- An object whose tag tells which rule reads it. -/
theorem tagged {tag : String} {name : Decoder String} {rule : String → Option (Reading α)}
    (h : ∀ kind r, rule kind = some r → r.Ensures P) : Ensures P (tagged tag name rule) := by
  intro j hj
  unfold Interchange.tagged
  split
  · refine .bind_right fun kind => ?_
    cases hr : rule kind with
    | none => exact .error _
    | some r => exact (h kind r hr).run (Json.fieldsRepresentable_iff.1 hj)
  · exact .error _

end Decoder.Ensures

namespace Reading.Ensures

variable {d : Decoder α}

theorem option (hd : Decoder.Ensures P d) (name : String) :
    Ensures (fun o => ∀ a, o = some a → P a) (option name d) :=
  optional (.nullable hd) name (by nofun)

theorem list (hd : Decoder.Ensures P d) (name : String) :
    Ensures (fun as => ∀ a ∈ as, P a) (list name d) :=
  optional (.listOf hd) name (by simp)

end Reading.Ensures

end Assessment.Interchange
