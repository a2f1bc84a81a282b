import Assessment.Interchange.Declaration
import Assessment.Proofs.Variable.WellTyped

/-!
# Declarations that are read are well typed

A declaration is accepted only when its signature is proper, and its default and its correct
response are read for that signature. So the slot that it declares is well typed.

The code is the conversions from the raw declarations, with `check_signature` in front and `conform`
behind every value. A store starts from such declarations, which is where well-typedness comes from.

* `wellTyped_responseDeclaration`, `wellTyped_outcomeDeclaration`, `wellTyped_templateDeclaration`:
  what the three kinds of declarations declare.
-/

namespace Assessment.Interchange

variable {α β : Type}

/-! ## Last checks -/

theorem orFault_eq_ok_iff {r : Except Fault α} {a : α} : orFault r = .ok a ↔ r = .ok a := by
  cases r <;> simp [orFault]

/-- What a record is read as has passed its last check. -/
theorem exists_of_record_andThen {names : List String} {r : Reading α} {f : α → Except Refusal β}
    {j : Json} {b : β} (h : record names (r.andThen f) j = .ok b) : ∃ a, f a = .ok b := by
  have run : ∀ fields, (r.andThen f).run fields = .ok b → ∃ a, f a = .ok b := by
    intro fields h
    unfold Reading.run Reading.andThen at h
    split at h
    · rename_i b' hb
      cases h
      split at hb
      · cases hb
      · rename_i a _
        split at hb
        · rename_i b'' hf
          cases hb
          exact ⟨a, hf⟩
        · cases hb
    · cases h
  unfold record at h
  split at h
  · exact run _ h
  · split at h
    · exact run _ h
    · cases h
  · cases h

/-! ## Drafts -/

variable {d : DeclarationDraft}

theorem DeclarationDraft.proper_of_signature {g : Signature} (h : d.signature = .ok g) :
    (⟨d.cardinality, d.baseType⟩ : Signature).Proper := by
  unfold signature at h
  unfold Signature.Proper
  split at h <;> simp_all

theorem DeclarationDraft.wellTyped_slot {t : Slot}
    (hg : (⟨d.cardinality, d.baseType⟩ : Signature).Proper) (h : d.slot = .ok t) :
    t.WellTyped ∧ t.signature = ⟨d.cardinality, d.baseType⟩ := by
  obtain ⟨v, hv, h⟩ := bind_eq_ok_iff.1 h
  cases h
  exact ⟨.ofDefault hg (fits_ofJson hg hv), rfl⟩

/-! ## Declarations -/

variable {j : Json}

/-- **A response variable that is read** is well typed, and its correct response fits. -/
theorem wellTyped_responseDeclaration {x : Declaration ResponseVariable}
    (h : responseDeclaration j = .ok x) :
    x.declared.toSlot.WellTyped ∧ x.declared.correct.Fits x.declared.signature := by
  obtain ⟨⟨d, correct, mapping, areas⟩, h⟩ := exists_of_record_andThen h
  have h := orFault_eq_ok_iff.1 h
  obtain ⟨g, hg, h⟩ := bind_eq_ok_iff.1 h
  have hg := d.proper_of_signature hg
  obtain ⟨m, -, h⟩ := bind_eq_ok_iff.1 h
  obtain ⟨t, ht, h⟩ := bind_eq_ok_iff.1 h
  obtain ⟨v, hv, h⟩ := bind_eq_ok_iff.1 h
  obtain ⟨hwt, hsig⟩ := d.wellTyped_slot hg ht
  cases h
  exact ⟨hwt, hsig ▸ fits_ofJson hg hv⟩

/-- **An outcome variable that is read** is well typed. -/
theorem wellTyped_outcomeDeclaration {x : Declaration OutcomeVariable}
    (h : outcomeDeclaration j = .ok x) : x.declared.toSlot.WellTyped := by
  obtain ⟨⟨d, table, low, high⟩, h⟩ := exists_of_record_andThen h
  have h := orFault_eq_ok_iff.1 h
  obtain ⟨g, hg, h⟩ := bind_eq_ok_iff.1 h
  obtain ⟨m, -, h⟩ := bind_eq_ok_iff.1 h
  obtain ⟨t, ht, h⟩ := bind_eq_ok_iff.1 h
  obtain ⟨hwt, -⟩ := d.wellTyped_slot (d.proper_of_signature hg) ht
  cases h
  exact hwt

/-- **A template variable that is read** is well typed. -/
theorem wellTyped_templateDeclaration {x : Declaration TemplateVariable}
    (h : templateDeclaration j = .ok x) : x.declared.toSlot.WellTyped := by
  obtain ⟨d, h⟩ := exists_of_record_andThen h
  have h := orFault_eq_ok_iff.1 h
  obtain ⟨g, hg, h⟩ := bind_eq_ok_iff.1 h
  obtain ⟨t, ht, h⟩ := bind_eq_ok_iff.1 h
  obtain ⟨hwt, -⟩ := d.wellTyped_slot (d.proper_of_signature hg) ht
  cases h
  exact hwt

end Assessment.Interchange
