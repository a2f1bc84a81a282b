import Assessment.Proofs.Variable.View

/-!
# Stores that agree on names

What a store holds under a name is the variable of each kind with that name. Everything that looks a
name up depends on it alone, and everything that writes through a name changes nothing else.

The look-ups are `value`, `signature`, `response`, `outcome` and `correct_response`, the writes
`set_value`, `set_default_value`, `set_correct_response` and `reset_to_default`.

* `Store.ext_holding`: a store is what it holds under its names.
* `Store.AgreesOn`: two stores hold the same under some names.
* `Store.Within`: a write that depends on some names, and changes what is held under them, alone.
-/

namespace Assessment

/-- The variable of each kind that a name has. -/
structure Holding where
  response : Option ResponseVariable
  outcome : Option OutcomeVariable
  template : Option TemplateVariable

namespace Store

variable {α : Type} {N : String → Prop} {s t : Store} {id k : String} {n : Namespace}

/-- What a store holds under a name. -/
def holding (s : Store) (id : String) : Holding :=
  ⟨s.responses.get? id, s.outcomes.get? id, s.templates.get? id⟩

theorem holding_eq_iff :
    s.holding id = t.holding id ↔
      s.responses.get? id = t.responses.get? id ∧ s.outcomes.get? id = t.outcomes.get? id ∧
        s.templates.get? id = t.templates.get? id := by
  simp only [holding, Holding.mk.injEq]

/-- Two stores that hold the same under every name are equal. -/
theorem ext_holding (h : ∀ id, s.holding id = t.holding id) : s = t := by
  obtain ⟨r, o, m⟩ := s
  obtain ⟨r', o', m'⟩ := t
  have hr : r = r' := Table.ext_get? fun id => (holding_eq_iff.1 (h id)).1
  have ho : o = o' := Table.ext_get? fun id => (holding_eq_iff.1 (h id)).2.1
  have hm : m = m' := Table.ext_get? fun id => (holding_eq_iff.1 (h id)).2.2
  rw [hr, ho, hm]

/-! ## What looks a name up -/

theorem namespaceOf?_of_holding (h : s.holding id = t.holding id) :
    s.namespaceOf? id = t.namespaceOf? id := by
  obtain ⟨hr, ho, hm⟩ := holding_eq_iff.1 h
  have hr : s.responses.contains id = t.responses.contains id := congrArg Option.isSome hr
  have ho : s.outcomes.contains id = t.outcomes.contains id := congrArg Option.isSome ho
  have hm : s.templates.contains id = t.templates.contains id := congrArg Option.isSome hm
  rw [namespaceOf?, namespaceOf?, hr, ho, hm]

theorem slotIn?_of_holding (h : s.holding id = t.holding id) (n : Namespace) :
    s.slotIn? n id = t.slotIn? n id := by
  obtain ⟨hr, ho, hm⟩ := holding_eq_iff.1 h
  cases n
  · rw [slotIn?, slotIn?, hr]
  · rw [slotIn?, slotIn?, ho]
  · rw [slotIn?, slotIn?, hm]

theorem isDeclared_of_holding (h : s.holding id = t.holding id) :
    s.isDeclared id = t.isDeclared id := by
  rw [isDeclared, isDeclared, namespaceOf?_of_holding h]

theorem slot_of_holding (h : s.holding id = t.holding id) : s.slot id = t.slot id := by
  have hs : s.slot? id = t.slot? id := by
    rw [slot?, slot?, namespaceOf?_of_holding h]
    exact Option.bind_congr fun n _ => slotIn?_of_holding h n
  rw [slot, slot, hs]

theorem value_of_holding (h : s.holding id = t.holding id) : s.value id = t.value id := by
  rw [value, value, slot_of_holding h]

theorem default_of_holding (h : s.holding id = t.holding id) : s.default id = t.default id := by
  rw [default, default, slot_of_holding h]

theorem response_of_holding (h : s.holding id = t.holding id) : s.response id = t.response id := by
  rw [response, response, (holding_eq_iff.1 h).1]

theorem outcome_of_holding (h : s.holding id = t.holding id) : s.outcome id = t.outcome id := by
  rw [outcome, outcome, (holding_eq_iff.1 h).2.1]

theorem template_of_holding (h : s.holding id = t.holding id) : s.template id = t.template id := by
  rw [template, template, (holding_eq_iff.1 h).2.2]

theorem correct_of_holding (h : s.holding id = t.holding id) : s.correct id = t.correct id := by
  rw [correct, correct, response_of_holding h]

/-! ## What writes through a name -/

variable {f : Slot → Slot}

theorem holding_modifyIn_of_ne (h : k ≠ id) :
    (s.modifyIn n id f).holding k = s.holding k := by
  cases n <;> simp [holding, modifyIn, Table.get?_modify, h]

theorem holding_modify_of_ne (h : k ≠ id) : (s.modify id f).holding k = s.holding k := by
  rw [modify]
  split
  · exact holding_modifyIn_of_ne h
  · rfl

theorem holding_modify_of_holding (h : s.holding id = t.holding id) :
    (s.modify id f).holding id = (t.modify id f).holding id := by
  rw [modify, modify, namespaceOf?_of_holding h]
  obtain ⟨hr, ho, hm⟩ := holding_eq_iff.1 h
  cases t.namespaceOf? id with
  | none => exact h
  | some n => cases n <;> simp [holding, modifyIn, Table.get?_modify, hr, ho, hm]

/-! ## Agreement on some names -/

/-- Two stores hold the same under the names of `N`. -/
def AgreesOn (N : String → Prop) (s t : Store) : Prop := ∀ id, N id → s.holding id = t.holding id

/-- A write depends on what is held under the names of `N`, and changes that, alone. -/
structure Within (N : String → Prop) (f : Store → Except Fault Store) : Prop where
  ok : ∀ {s t s' : Store}, s.AgreesOn N t → f s = .ok s' → ∃ t', f t = .ok t' ∧ s'.AgreesOn N t'
  error : ∀ {s t : Store} {e : Fault}, s.AgreesOn N t → f s = .error e → f t = .error e
  frame : ∀ {s s' : Store}, f s = .ok s' → ∀ id, ¬ N id → s'.holding id = s.holding id

/-- A write under one name of what the store gives for names of `N`. -/
theorem Within.of_map {g : Store → Except Fault α} {put : α → Store → Store} (hN : N id)
    (hg : ∀ s t, s.AgreesOn N t → g s = g t)
    (hput : ∀ a s t, s.holding id = t.holding id → (put a s).holding id = (put a t).holding id)
    (hne : ∀ a s k, k ≠ id → (put a s).holding k = s.holding k) :
    Within N fun s => (g s).map fun a => put a s where
  ok {s t s'} h hs := by
    obtain ⟨a, ha, rfl⟩ := map_eq_ok_iff.1 hs
    refine ⟨put a t, map_eq_ok_iff.2 ⟨a, (hg s t h).symm.trans ha, rfl⟩, fun k hk => ?_⟩
    by_cases e : k = id
    · rw [e]
      exact hput a s t (h id hN)
    · rw [hne a s k e, hne a t k e]
      exact h k hk
  error {s t e} h hs := by
    rw [map_eq_error_iff] at hs ⊢
    exact (hg s t h).symm.trans hs
  frame {s s'} hs k hk := by
    obtain ⟨a, -, rfl⟩ := map_eq_ok_iff.1 hs
    exact hne a s k fun e => hk (e ▸ hN)

/-- The value that the variable of a name takes for a value given to it. -/
def fitted (s : Store) (id : String) (v : Value) : Except Fault Value := do
  let t ← s.slot id
  conform id v t.signature

theorem fitted_of_holding (h : s.holding id = t.holding id) (v : Value) :
    s.fitted id v = t.fitted id v := by
  rw [fitted, fitted, slot_of_holding h]

theorem setValue_eq_map (s : Store) (id : String) (v : Value) :
    s.setValue id v = (s.fitted id v).map fun w => s.modify id fun t => { t with value := w } := by
  rw [setValue, fitted]
  cases s.slot id with
  | error e => rfl
  | ok t =>
    show (conform id v t.signature >>= _) = (conform id v t.signature).map _
    cases conform id v t.signature <;> rfl

theorem setDefault_eq_map (s : Store) (id : String) (v : Value) :
    s.setDefault id v =
      (s.fitted id v).map fun w => s.modify id fun t => { t with default := w } := by
  rw [setDefault, fitted]
  cases s.slot id with
  | error e => rfl
  | ok t =>
    show (conform id v t.signature >>= _) = (conform id v t.signature).map _
    cases conform id v t.signature <;> rfl

theorem within_setValue (hN : N id) (v : Value) : Within N fun s => s.setValue id v := by
  simp only [setValue_eq_map]
  exact .of_map hN (fun s t h => fitted_of_holding (h id hN) v)
    (fun _ _ _ => holding_modify_of_holding) fun _ _ _ => holding_modify_of_ne

theorem within_setDefault (hN : N id) (v : Value) : Within N fun s => s.setDefault id v := by
  simp only [setDefault_eq_map]
  exact .of_map hN (fun s t h => fitted_of_holding (h id hN) v)
    (fun _ _ _ => holding_modify_of_holding) fun _ _ _ => holding_modify_of_ne

theorem within_resetToDefault (hN : N id) : Within N fun s => s.resetToDefault id where
  ok {s t s'} h hs := by
    obtain ⟨v, hv, hs⟩ := bind_eq_ok_iff.1 hs
    obtain ⟨t', ht', h'⟩ := (within_setValue hN v).ok h hs
    exact ⟨t', bind_eq_ok_iff.2 ⟨v, (default_of_holding (h id hN)).symm.trans hv, ht'⟩, h'⟩
  error {s t e} h hs := by
    rw [resetToDefault] at hs ⊢
    rw [← default_of_holding (h id hN)]
    cases hv : s.default id with
    | error e' =>
      rw [hv] at hs
      exact hs
    | ok v =>
      rw [hv] at hs
      exact (within_setValue hN v).error h hs
  frame {s s'} hs := by
    obtain ⟨v, -, hs⟩ := bind_eq_ok_iff.1 hs
    exact (within_setValue hN v).frame hs

/-- A correct response is changed under the name of its response variable. -/
theorem within_setCorrect (hN : N id) (v : Value) : Within N fun s => s.setCorrect id v := by
  have hmap : ∀ s : Store, s.setCorrect id v =
      (do let r ← s.response id
          conform id v r.signature : Except Fault Value).map fun w =>
        { s with responses := s.responses.modify id fun r => { r with correct := w } } := by
    intro s
    rw [setCorrect]
    cases s.response id with
    | error e => rfl
    | ok r =>
      show (conform id v r.signature >>= _) = (conform id v r.signature).map _
      cases conform id v r.signature <;> rfl
  simp only [hmap]
  refine .of_map hN (fun s t h => ?_) (fun w s t h => ?_) fun w s k hk => ?_
  · rw [response_of_holding (h id hN)]
  · obtain ⟨hr, ho, hm⟩ := holding_eq_iff.1 h
    simp [holding, Table.get?_modify, hr, ho, hm]
  · simp [holding, Table.get?_modify, hk]

end Store

end Assessment
