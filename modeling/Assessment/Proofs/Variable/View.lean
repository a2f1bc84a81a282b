import Assessment.Proofs.Result
import Assessment.Variable.Store
import Mathlib.Tactic.SplitIfs

/-!
# The store through its views

`slots n` lists the slots of the variables of kind `n`; `values`, `defaults` and `declarations` are
what it shows of them, and `keys` lists the correct responses. A write changes one slot of one kind,
so what a view tells after a write follows from what the write does to a slot.

The writes are those of `VariableContext`. Everything that is proved of them afterwards is proved of
these views.

* `slots_modifyIn`: a write is seen in the slots of its kind alone, under its name.
* `setValue_eq_ok_iff`, `setDefault_eq_ok_iff`, `setCorrect_eq_ok_iff`, `resetToDefault_eq_ok_iff`:
  when a write succeeds, and the store it leaves.
-/

namespace Assessment

/-- What the declarations say that no program changes: the names and signatures of the variables of
each kind, the mappings of the responses, the tables and normal bounds of the outcomes. -/
structure Declarations where
  signatures : Namespace → Table Signature
  mappings : Table (Option Mapping × Option AreaMapping)
  results : Table (Option LookupTable × Option Float × Option Float)

namespace Store

variable {β : Type} {s s' : Store} {id : String} {n m : Namespace} {v : Value}

/-! ## Views -/

/-- The slots of the variables of a kind. -/
def slots (s : Store) : Namespace → Table Slot
  | .response => s.responses.map fun _ r => r.toSlot
  | .outcome => s.outcomes.map fun _ o => o.toSlot
  | .template => s.templates.map fun _ t => t.toSlot

/-- The current values of the variables of a kind. -/
def values (s : Store) (n : Namespace) : Table Value := (s.slots n).map fun _ t => t.value

/-- The declared defaults of the variables of a kind. -/
def defaults (s : Store) (n : Namespace) : Table Value := (s.slots n).map fun _ t => t.default

/-- The correct responses. -/
def keys (s : Store) : Table Value := s.responses.map fun _ r => r.correct

/-- What the declarations say that no program changes. -/
def declarations (s : Store) : Declarations where
  signatures n := (s.slots n).map fun _ t => t.signature
  mappings := s.responses.map fun _ r => (r.mapping, r.areaMapping)
  results := s.outcomes.map fun _ o => (o.lookupTable, o.normalMinimum, o.normalMaximum)

theorem get?_slots (s : Store) (n : Namespace) (id : String) :
    (s.slots n).get? id = s.slotIn? n id := by
  cases n <;> simp [slots, slotIn?]

/-! ## Declarations and resets of all variables of a kind -/

theorem slotIn?_declareResponse (s : Store) (d : Declaration ResponseVariable) (m : Namespace)
    (k : String) :
    (s.declareResponse d).slotIn? m k =
      if m = .response ∧ k = d.identifier then some d.declared.toSlot else s.slotIn? m k := by
  cases m
  · simp only [slotIn?, declareResponse, Table.get?_insert, true_and]
    split_ifs <;> rfl
  · rfl
  · rfl

theorem slotIn?_declareOutcome (s : Store) (d : Declaration OutcomeVariable) (m : Namespace)
    (k : String) :
    (s.declareOutcome d).slotIn? m k =
      if m = .outcome ∧ k = d.identifier then some d.declared.toSlot else s.slotIn? m k := by
  cases m
  · rfl
  · simp only [slotIn?, declareOutcome, Table.get?_insert, true_and]
    split_ifs <;> rfl
  · rfl

theorem slotIn?_declareTemplate (s : Store) (d : Declaration TemplateVariable) (m : Namespace)
    (k : String) :
    (s.declareTemplate d).slotIn? m k =
      if m = .template ∧ k = d.identifier then some d.declared.toSlot else s.slotIn? m k := by
  cases m
  · rfl
  · rfl
  · simp only [slotIn?, declareTemplate, Table.get?_insert, true_and]
    split_ifs <;> rfl

theorem get?_keys (s : Store) (id : String) :
    s.keys.get? id = (s.responses.get? id).map (·.correct) :=
  Table.get?_map _ _ _

theorem get?_keys_declareResponse (s : Store) (d : Declaration ResponseVariable) (k : String) :
    (s.declareResponse d).keys.get? k =
      if k = d.identifier then some d.declared.correct else s.keys.get? k := by
  rw [get?_keys, get?_keys, declareResponse, Table.get?_insert]
  split_ifs <;> rfl

theorem slotIn?_resetOutcomes (s : Store) (m : Namespace) (k : String) :
    s.resetOutcomes.slotIn? m k =
      if m = .outcome then (s.slotIn? m k).map Slot.reset else s.slotIn? m k := by
  cases m
  · rfl
  · simp [slotIn?, resetOutcomes, Function.comp_def]
  · rfl

theorem slotIn?_resetTemplates (s : Store) (m : Namespace) (k : String) :
    s.resetTemplates.slotIn? m k =
      if m = .template then (s.slotIn? m k).map Slot.reset else s.slotIn? m k := by
  cases m
  · rfl
  · rfl
  · simp [slotIn?, resetTemplates, Function.comp_def]

/-! ## The kind that a name means -/

/-- A name is that of a response variable, or else of an outcome variable, or else of a template
variable; the names of each kind are in its table. -/
theorem namespaceOf?_eq_some_iff :
    s.namespaceOf? id = some n ↔
      (n = .response ∧ (s.responses.get? id).isSome) ∨
      (n = .outcome ∧ s.responses.get? id = none ∧ (s.outcomes.get? id).isSome) ∨
      (n = .template ∧ s.responses.get? id = none ∧ s.outcomes.get? id = none ∧
        (s.templates.get? id).isSome) := by
  unfold namespaceOf? Table.contains
  cases s.responses.get? id <;> cases s.outcomes.get? id <;> cases s.templates.get? id <;>
    simp [eq_comm]

theorem exists_slotIn?_of_namespaceOf? (h : s.namespaceOf? id = some n) :
    ∃ t, s.slotIn? n id = some t := by
  rw [namespaceOf?_eq_some_iff] at h
  rcases h with ⟨rfl, h⟩ | ⟨rfl, -, h⟩ | ⟨rfl, -, -, h⟩ <;>
    · obtain ⟨r, hr⟩ := Option.isSome_iff_exists.1 h
      exact ⟨r.toSlot, by rw [slotIn?, hr]; rfl⟩

theorem namespaceOf?_of_response {r : ResponseVariable} (h : s.responses.get? id = some r) :
    s.namespaceOf? id = some .response :=
  namespaceOf?_eq_some_iff.2 (.inl ⟨rfl, by rw [h]; rfl⟩)

/-- A name that is an outcome variable's means a template variable in no case. -/
theorem namespaceOf?_ne_template {o : OutcomeVariable} (h : s.outcomes.get? id = some o)
    (hn : s.namespaceOf? id = some n) : n ≠ .template := by
  rintro rfl
  rcases namespaceOf?_eq_some_iff.1 hn with ⟨e, -⟩ | ⟨e, -⟩ | ⟨-, -, ho, -⟩
  · cases e
  · cases e
  · rw [ho] at h
    cases h

theorem slot?_eq_some_iff {t : Slot} :
    s.slot? id = some t ↔ ∃ n, s.namespaceOf? id = some n ∧ s.slotIn? n id = some t := by
  simp [slot?, Option.bind_eq_some_iff]

theorem slot_eq_ok_iff {t : Slot} :
    s.slot id = .ok t ↔ ∃ n, s.namespaceOf? id = some n ∧ s.slotIn? n id = some t := by
  rw [← slot?_eq_some_iff, slot]
  cases s.slot? id <;> simp

theorem response_eq_ok_iff {r : ResponseVariable} :
    s.response id = .ok r ↔ s.responses.get? id = some r := by
  rw [response]
  cases s.responses.get? id <;> simp

theorem outcome_eq_ok_iff {o : OutcomeVariable} :
    s.outcome id = .ok o ↔ s.outcomes.get? id = some o := by
  rw [outcome]
  cases s.outcomes.get? id <;> simp

/-! ## What a change of a slot is seen by -/

variable {f : Slot → Slot}

/-- A change under a name is seen in the slots of its kind alone. -/
theorem slots_modifyIn (s : Store) (n m : Namespace) (id : String) (f : Slot → Slot) :
    (s.modifyIn n id f).slots m = if m = n then (s.slots m).modify id f else s.slots m := by
  cases n <;> cases m <;> try rfl
  · exact Table.map_modify (fun r : ResponseVariable => r.toSlot) (fun _ => rfl) _ _
  · exact Table.map_modify (fun o : OutcomeVariable => o.toSlot) (fun _ => rfl) _ _
  · exact Table.map_modify (fun t : TemplateVariable => t.toSlot) (fun _ => rfl) _ _

theorem slotIn?_modifyIn (s : Store) (n m : Namespace) (id k : String) (f : Slot → Slot) :
    (s.modifyIn n id f).slotIn? m k =
      if m = n ∧ k = id then (s.slotIn? m k).map f else s.slotIn? m k := by
  rw [← get?_slots, slots_modifyIn, ← get?_slots]
  by_cases hm : m = n
  · rw [if_pos hm, Table.get?_modify]
    by_cases hk : k = id <;> simp [hm, hk]
  · simp [hm]

/-- A change leaves the names of the variables alone. -/
theorem namespaceOf?_modifyIn (s : Store) (n : Namespace) (id k : String) (f : Slot → Slot) :
    (s.modifyIn n id f).namespaceOf? k = s.namespaceOf? k := by
  unfold namespaceOf?
  cases n <;> rw [modifyIn, Table.contains_modify]

theorem slots_modifyIn_of_ne (h : m ≠ n) : (s.modifyIn n id f).slots m = s.slots m := by
  rw [slots_modifyIn, if_neg h]

/-- A view of the slots that a change leaves alone does not see it. -/
theorem map_slots_modifyIn {g : Slot → β} (h : ∀ t, g (f t) = g t) :
    ((s.modifyIn n id f).slots m).map (fun _ => g) = (s.slots m).map fun _ => g := by
  rw [slots_modifyIn]
  split_ifs
  · exact Table.map_modify_of_eq g h _ _
  · rfl

theorem keys_modifyIn : (s.modifyIn n id f).keys = s.keys := by
  cases n
  · exact Table.map_modify_of_eq (fun r : ResponseVariable => r.correct) (fun _ => by rfl) _ _
  · rfl
  · rfl

/-- Signatures apart, the declarations say nothing about slots. -/
theorem declarations_modifyIn (h : ∀ t, (f t).signature = t.signature) :
    (s.modifyIn n id f).declarations = s.declarations := by
  have hm : (s.modifyIn n id f).declarations.mappings = s.declarations.mappings := by
    cases n
    · exact Table.map_modify_of_eq (fun r : ResponseVariable => (r.mapping, r.areaMapping))
        (fun _ => by rfl) _ _
    · rfl
    · rfl
  have hr : (s.modifyIn n id f).declarations.results = s.declarations.results := by
    cases n
    · rfl
    · exact Table.map_modify_of_eq
        (fun o : OutcomeVariable => (o.lookupTable, o.normalMinimum, o.normalMaximum))
        (fun _ => by rfl) _ _
    · rfl
  simp only [declarations, Declarations.mk.injEq]
  exact ⟨funext fun _ => map_slots_modifyIn h, hm, hr⟩

/-! ## What a change of a correct response is seen by -/

theorem slots_modify_correct (s : Store) (id : String) (w : Value) (n : Namespace) :
    ({ s with responses := s.responses.modify id fun r => { r with correct := w } } :
      Store).slots n = s.slots n := by
  cases n
  · exact Table.map_modify_of_eq (fun r : ResponseVariable => r.toSlot) (fun _ => by rfl) _ _
  · rfl
  · rfl

theorem declarations_modify_correct (s : Store) (id : String) (w : Value) :
    ({ s with responses := s.responses.modify id fun r => { r with correct := w } } :
      Store).declarations = s.declarations := by
  simp only [declarations, slots_modify_correct, Declarations.mk.injEq, true_and, and_true]
  exact Table.map_modify_of_eq (fun r : ResponseVariable => (r.mapping, r.areaMapping))
    (fun _ => by rfl) _ _

/-! ## Writes that succeed -/

/-- A write through the name of a variable: what it takes, and what it leaves. -/
theorem fitted_eq_ok_iff (put : Value → Slot → Slot) :
    (do let t ← s.slot id
        let w ← conform id v t.signature
        pure (s.modify id (put w)) : Except Fault Store) = .ok s' ↔
      ∃ n t w, s.namespaceOf? id = some n ∧ s.slotIn? n id = some t ∧
        conform id v t.signature = .ok w ∧ s' = s.modifyIn n id (put w) := by
  constructor
  · intro h
    obtain ⟨t, ht, h⟩ := bind_eq_ok_iff.1 h
    obtain ⟨w, hw, h⟩ := bind_eq_ok_iff.1 h
    obtain ⟨n, hn, hs⟩ := slot_eq_ok_iff.1 ht
    refine ⟨n, t, w, hn, hs, hw, ?_⟩
    cases h
    rw [modify, hn]
  · rintro ⟨n, t, w, hn, hs, hw, rfl⟩
    refine bind_eq_ok_iff.2 ⟨t, slot_eq_ok_iff.2 ⟨n, hn, hs⟩, bind_eq_ok_iff.2 ⟨w, hw, ?_⟩⟩
    rw [modify, hn]
    rfl

theorem setValue_eq_ok_iff :
    s.setValue id v = .ok s' ↔
      ∃ n t w, s.namespaceOf? id = some n ∧ s.slotIn? n id = some t ∧
        conform id v t.signature = .ok w ∧
        s' = s.modifyIn n id fun t => { t with value := w } :=
  fitted_eq_ok_iff fun w t => { t with value := w }

theorem setDefault_eq_ok_iff :
    s.setDefault id v = .ok s' ↔
      ∃ n t w, s.namespaceOf? id = some n ∧ s.slotIn? n id = some t ∧
        conform id v t.signature = .ok w ∧
        s' = s.modifyIn n id fun t => { t with default := w } :=
  fitted_eq_ok_iff fun w t => { t with default := w }

theorem setCorrect_eq_ok_iff :
    s.setCorrect id v = .ok s' ↔
      ∃ r w, s.responses.get? id = some r ∧ conform id v r.signature = .ok w ∧
        s' = { s with responses := s.responses.modify id fun r => { r with correct := w } } := by
  constructor
  · intro h
    obtain ⟨r, hr, h⟩ := bind_eq_ok_iff.1 h
    obtain ⟨w, hw, h⟩ := bind_eq_ok_iff.1 h
    cases h
    exact ⟨r, w, response_eq_ok_iff.1 hr, hw, rfl⟩
  · rintro ⟨r, w, hr, hw, rfl⟩
    exact bind_eq_ok_iff.2 ⟨r, response_eq_ok_iff.2 hr, bind_eq_ok_iff.2 ⟨w, hw, rfl⟩⟩

theorem default_eq_ok_iff :
    s.default id = .ok v ↔
      ∃ n t, s.namespaceOf? id = some n ∧ s.slotIn? n id = some t ∧ t.default = v := by
  simp only [default, map_eq_ok_iff, slot_eq_ok_iff]
  exact ⟨fun ⟨t, ⟨n, hn, ht⟩, h⟩ => ⟨n, t, hn, ht, h⟩, fun ⟨n, t, hn, ht, h⟩ => ⟨t, ⟨n, hn, ht⟩, h⟩⟩

theorem value_eq_ok_iff :
    s.value id = .ok v ↔
      ∃ n t, s.namespaceOf? id = some n ∧ s.slotIn? n id = some t ∧ t.value = v := by
  simp only [value, map_eq_ok_iff, slot_eq_ok_iff]
  exact ⟨fun ⟨t, ⟨n, hn, ht⟩, h⟩ => ⟨n, t, hn, ht, h⟩, fun ⟨n, t, hn, ht, h⟩ => ⟨t, ⟨n, hn, ht⟩, h⟩⟩

theorem resetToDefault_eq_ok_iff :
    s.resetToDefault id = .ok s' ↔
      ∃ n t w, s.namespaceOf? id = some n ∧ s.slotIn? n id = some t ∧
        conform id t.default t.signature = .ok w ∧
        s' = s.modifyIn n id fun t => { t with value := w } := by
  constructor
  · intro h
    obtain ⟨d, hd, h⟩ := bind_eq_ok_iff.1 h
    obtain ⟨n, t, hn, ht, rfl⟩ := default_eq_ok_iff.1 hd
    obtain ⟨n', t', w, hn', ht', hw, rfl⟩ := setValue_eq_ok_iff.1 h
    cases hn.symm.trans hn'
    cases ht.symm.trans ht'
    exact ⟨n, t, w, hn, ht, hw, rfl⟩
  · rintro ⟨n, t, w, hn, ht, hw, rfl⟩
    exact bind_eq_ok_iff.2 ⟨t.default, default_eq_ok_iff.2 ⟨n, t, hn, ht, rfl⟩,
      setValue_eq_ok_iff.2 ⟨n, t, w, hn, ht, hw, rfl⟩⟩

end Store

end Assessment
