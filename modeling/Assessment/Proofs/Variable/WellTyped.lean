import Assessment.Proofs.Variable.Fits
import Assessment.Proofs.Variable.View

/-!
# Well-typed stores

A store is well typed when the value, the declared default and the correct response of every
variable fit its signature. Every operation of the store keeps it so, whatever values it is given,
and in a well-typed store no reset fails.

The operations are the methods of `VariableContext`, each of which puts a value through `conform`
before it is stored.

* `WellTyped.setValue`, `WellTyped.setDefault`, `WellTyped.setCorrect` and the others: what each
  operation leaves is well typed.
* `WellTyped.exists_resetToDefault`: a declared variable can always be reset.
-/

namespace Assessment

/-- A slot with a proper signature that its value and its default fit. -/
structure Slot.WellTyped (t : Slot) : Prop where
  proper : t.signature.Proper
  value : t.value.Fits t.signature
  default : t.default.Fits t.signature

theorem Slot.WellTyped.ofDefault {g : Signature} {v : Value} (hg : g.Proper) (hv : v.Fits g) :
    (Slot.ofDefault g v).WellTyped := ⟨hg, hv, hv⟩

theorem Slot.WellTyped.reset {t : Slot} (h : t.WellTyped) : t.reset.WellTyped :=
  ⟨h.proper, h.default, h.default⟩

namespace Store

/-- Every slot of every kind is well typed, and every correct response fits the signature of its
variable. -/
structure WellTyped (s : Store) : Prop where
  slots : ∀ n id t, s.slotIn? n id = some t → t.WellTyped
  keys : ∀ id v t, s.keys.get? id = some v → s.slotIn? .response id = some t → v.Fits t.signature

variable {s s' : Store} {id : String} {n : Namespace} {v : Value}

theorem wellTyped_empty : empty.WellTyped where
  slots n id t h := by cases n <;> cases h
  keys id v t h := by cases h

namespace WellTyped

/-! ## Declaring -/

/-- Declared in the place of whatever was there, a well-typed slot keeps the slots well typed. -/
theorem slots_of_declare (h : s.WellTyped) {u : Slot} (hu : u.WellTyped)
    (hs : ∀ m k, s'.slotIn? m k = if m = n ∧ k = id then some u else s.slotIn? m k) :
    ∀ m k t, s'.slotIn? m k = some t → t.WellTyped := by
  intro m k t ht
  rw [hs] at ht
  split_ifs at ht
  · cases ht
    exact hu
  · exact h.slots m k t ht

theorem declareResponse (h : s.WellTyped) {d : Declaration ResponseVariable}
    (hs : d.declared.toSlot.WellTyped) (hc : d.declared.correct.Fits d.declared.signature) :
    (s.declareResponse d).WellTyped where
  slots := h.slots_of_declare hs (slotIn?_declareResponse s d)
  keys k v t hv ht := by
    rw [get?_keys_declareResponse] at hv
    rw [slotIn?_declareResponse] at ht
    by_cases hk : k = d.identifier
    · rw [if_pos hk] at hv
      rw [if_pos ⟨rfl, hk⟩] at ht
      cases hv
      cases ht
      exact hc
    · rw [if_neg hk] at hv
      rw [if_neg fun e => hk e.2] at ht
      exact h.keys k v t hv ht

theorem declareOutcome (h : s.WellTyped) {d : Declaration OutcomeVariable}
    (hs : d.declared.toSlot.WellTyped) : (s.declareOutcome d).WellTyped where
  slots := h.slots_of_declare hs (slotIn?_declareOutcome s d)
  keys := h.keys

theorem declareTemplate (h : s.WellTyped) {d : Declaration TemplateVariable}
    (hs : d.declared.toSlot.WellTyped) : (s.declareTemplate d).WellTyped where
  slots := h.slots_of_declare hs (slotIn?_declareTemplate s d)
  keys := h.keys

end WellTyped

/-- The variables that every item has are well typed. -/
theorem wellTyped_builtins : builtins.WellTyped := by
  have proper : ∀ t, (⟨.single, some t⟩ : Signature).Proper := fun t => by
    simp [Signature.Proper]
  refine ((wellTyped_empty.declareResponse (.ofDefault (proper _) ?_) ?_).declareResponse
    (.ofDefault (proper _) ?_) ?_).declareOutcome (.ofDefault (proper _) ?_)
  · exact Value.fits_null _
  · exact Value.fits_null _
  · exact Value.fits_null _
  · exact Value.fits_null _
  · exact .inr (Value.has_iff.2 ⟨rfl, fun t ht => ht⟩)

namespace WellTyped

/-! ## Writing -/

/-- A change that keeps a slot and its signature keeps the store. -/
theorem modifyIn (h : s.WellTyped) {f : Slot → Slot}
    (hf : ∀ t, s.slotIn? n id = some t → (f t).WellTyped)
    (hg : ∀ t, (f t).signature = t.signature) : (s.modifyIn n id f).WellTyped where
  slots m k t ht := by
    rw [slotIn?_modifyIn] at ht
    split_ifs at ht with hm
    · obtain ⟨rfl, rfl⟩ := hm
      obtain ⟨t', ht', rfl⟩ := Option.map_eq_some_iff.1 ht
      exact hf t' ht'
    · exact h.slots m k t ht
  keys k v t hv ht := by
    rw [keys_modifyIn] at hv
    rw [slotIn?_modifyIn] at ht
    split_ifs at ht
    · obtain ⟨t', ht', rfl⟩ := Option.map_eq_some_iff.1 ht
      rw [hg]
      exact h.keys k v t' hv ht'
    · exact h.keys k v t hv ht

variable {t : Slot} {w : Value} {k : String}

theorem modifyIn_value (h : s.WellTyped) (ht : s.slotIn? n id = some t)
    (hw : conform k v t.signature = .ok w) :
    (s.modifyIn n id fun t => { t with value := w }).WellTyped := by
  refine h.modifyIn (fun t' ht' => ?_) fun _ => rfl
  cases ht.symm.trans ht'
  have := h.slots n id t ht
  exact ⟨this.proper, conform_fits this.proper.2 hw, this.default⟩

theorem modifyIn_default (h : s.WellTyped) (ht : s.slotIn? n id = some t)
    (hw : conform k v t.signature = .ok w) :
    (s.modifyIn n id fun t => { t with default := w }).WellTyped := by
  refine h.modifyIn (fun t' ht' => ?_) fun _ => rfl
  cases ht.symm.trans ht'
  have := h.slots n id t ht
  exact ⟨this.proper, this.value, conform_fits this.proper.2 hw⟩

theorem modify_correct (h : s.WellTyped) {r : ResponseVariable}
    (hr : s.responses.get? id = some r) (hw : conform k v r.signature = .ok w) :
    ({ s with responses := s.responses.modify id fun r => { r with correct := w } } :
      Store).WellTyped where
  slots m k t ht := by
    rw [← get?_slots, slots_modify_correct, get?_slots] at ht
    exact h.slots m k t ht
  keys k v t hv ht := by
    rw [← get?_slots, slots_modify_correct, get?_slots] at ht
    rw [get?_keys, Table.get?_modify] at hv
    split_ifs at hv with hk
    · subst hk
      have hwt := h.slots .response k t ht
      rw [slotIn?, hr] at ht
      rw [hr] at hv
      cases ht
      cases hv
      exact conform_fits hwt.proper.2 hw
    · exact h.keys k v t (by rw [get?_keys, hv]) ht

theorem setValue (h : s.WellTyped) (hs : s.setValue id v = .ok s') : s'.WellTyped := by
  obtain ⟨n, t, w, -, ht, hw, rfl⟩ := setValue_eq_ok_iff.1 hs
  exact h.modifyIn_value ht hw

theorem setDefault (h : s.WellTyped) (hs : s.setDefault id v = .ok s') : s'.WellTyped := by
  obtain ⟨n, t, w, -, ht, hw, rfl⟩ := setDefault_eq_ok_iff.1 hs
  exact h.modifyIn_default ht hw

theorem setCorrect (h : s.WellTyped) (hs : s.setCorrect id v = .ok s') : s'.WellTyped := by
  obtain ⟨r, w, hr, hw, rfl⟩ := setCorrect_eq_ok_iff.1 hs
  exact h.modify_correct hr hw

theorem resetToDefault (h : s.WellTyped) (hs : s.resetToDefault id = .ok s') : s'.WellTyped := by
  obtain ⟨n, t, w, -, ht, hw, rfl⟩ := resetToDefault_eq_ok_iff.1 hs
  exact h.modifyIn_value ht hw

/-- A reset of all variables of a kind changes values into defaults. -/
theorem of_reset (h : s.WellTyped) (hk : s'.keys = s.keys)
    (hs : ∀ m k, s'.slotIn? m k = if m = n then (s.slotIn? m k).map Slot.reset
      else s.slotIn? m k) : s'.WellTyped where
  slots m k t ht := by
    rw [hs] at ht
    split_ifs at ht
    · obtain ⟨t', ht', rfl⟩ := Option.map_eq_some_iff.1 ht
      exact (h.slots m k t' ht').reset
    · exact h.slots m k t ht
  keys k v t hv ht := by
    rw [hk] at hv
    rw [hs] at ht
    split_ifs at ht
    · obtain ⟨t', ht', rfl⟩ := Option.map_eq_some_iff.1 ht
      exact h.keys k v t' hv ht'
    · exact h.keys k v t hv ht

theorem resetOutcomes (h : s.WellTyped) : s.resetOutcomes.WellTyped :=
  h.of_reset rfl (slotIn?_resetOutcomes s)

theorem resetTemplates (h : s.WellTyped) : s.resetTemplates.WellTyped :=
  h.of_reset rfl (slotIn?_resetTemplates s)

/-! ## Resetting -/

/-- **A declared variable can be reset**, and has its declared default as value then. -/
theorem exists_resetToDefault (h : s.WellTyped) (hd : s.isDeclared id) :
    ∃ v s', s.default id = .ok v ∧ s.resetToDefault id = .ok s' ∧ s'.value id = .ok v ∧
      s'.default id = .ok v := by
  obtain ⟨n, hn⟩ := Option.isSome_iff_exists.1 hd
  obtain ⟨t, ht⟩ := exists_slotIn?_of_namespaceOf? hn
  have hc : conform id t.default t.signature = .ok t.default :=
    conform_of_fits (h.slots n id t ht).default
  have hn' : (s.modifyIn n id fun u => { u with value := t.default }).namespaceOf? id = some n := by
    rw [namespaceOf?_modifyIn, hn]
  have ht' : (s.modifyIn n id fun u => { u with value := t.default }).slotIn? n id =
      some { t with value := t.default } := by
    rw [slotIn?_modifyIn, if_pos ⟨rfl, rfl⟩, ht]
    rfl
  exact ⟨t.default, _, default_eq_ok_iff.2 ⟨n, t, hn, ht, rfl⟩,
    resetToDefault_eq_ok_iff.2 ⟨n, t, t.default, hn, ht, hc, rfl⟩,
    value_eq_ok_iff.2 ⟨n, _, hn', ht', rfl⟩, default_eq_ok_iff.2 ⟨n, _, hn', ht', rfl⟩⟩

end WellTyped

end Store

end Assessment
