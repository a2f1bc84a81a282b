import Assessment.Proofs.Program.Frame

/-!
# When response variables are read-only

Outside response processing every statement that writes by name refuses a response variable, except
the look-up of an outcome variable: it asks for an outcome variable of the name, and writes what the
name means. A name that is a response variable's too means that one, so a look-up in the table of
the outcome variable reaches the response variable.

The comment at the head of the executor says that response variables are writable only during
response processing, and so does section B.4.2 of the specification. The arm lookupOutcomeValue of
`execute_statement` calls `set_value` without `check_writable` before it.

* `Program.responses_readOnly_iff`: which names looked up keep every program outside response
  processing from changing a response.
* `response_written_in_outcome_processing`: a look-up that does change one.
-/

namespace Assessment

variable {σ : Type} {phase : Phase} {a : Statement} {s t : Store} {id : String}

/-- A look-up of the outcome variable of a name would change the response variable of that name. -/
def Store.Exposes (s : Store) (id : String) : Prop :=
  ∃ slot u v w, s.slotIn? .response id = some slot ∧ lookedUp id u s = .ok v ∧
    conform id v slot.signature = .ok w ∧ w ≠ slot.value

/-! ## What exposes a name -/

/-- Declarations and values say what the slots hold, defaults apart. -/
theorem Store.exists_slotIn?_of_views {n : Namespace} {slot : Slot}
    (hd : t.declarations = s.declarations) (hv : t.values n = s.values n)
    (h : t.slotIn? n id = some slot) :
    ∃ slot', s.slotIn? n id = some slot' ∧ slot'.signature = slot.signature ∧
      slot'.value = slot.value := by
  have hsig : (s.slotIn? n id).map (·.signature) = some slot.signature := by
    have : (t.declarations.signatures n).get? id = (s.declarations.signatures n).get? id := by
      rw [hd]
    simpa [declarations, get?_slots, h] using this.symm
  have hval : (s.slotIn? n id).map (·.value) = some slot.value := by
    have : (t.values n).get? id = (s.values n).get? id := by rw [hv]
    simpa [values, get?_slots, h] using this.symm
  cases hs : s.slotIn? n id with
  | none =>
    rw [hs] at hsig
    cases hsig
  | some slot' =>
    rw [hs] at hsig hval
    exact ⟨slot', rfl, Option.some.inj hsig, Option.some.inj hval⟩

/-- The declarations decide what a look-up gives. -/
theorem lookedUp_of_declarations {u v : Value} (hd : t.declarations = s.declarations)
    (h : lookedUp id u t = .ok v) : lookedUp id u s = .ok v := by
  obtain ⟨o, table, ho, ht, hr⟩ := lookedUp_eq_ok_iff.1 h
  have h : (t.declarations.results).get? id = (s.declarations.results).get? id := by rw [hd]
  simp only [Store.declarations, Table.get?_map, ho, Option.map_some] at h
  cases hs : s.outcomes.get? id with
  | none => simp [hs] at h
  | some o' =>
    simp only [hs, Option.map_some, Option.some.injEq, Prod.mk.injEq] at h
    exact lookedUp_eq_ok_iff.2 ⟨o', table, hs, h.1 ▸ ht, hr⟩

/-- What exposes a name is there from the start, as long as no response has changed. -/
theorem Store.Exposes.of_views (hd : t.declarations = s.declarations)
    (hv : t.values .response = s.values .response) (h : t.Exposes id) : s.Exposes id := by
  obtain ⟨slot, u, v, w, hs, hl, hc, hne⟩ := h
  obtain ⟨slot', hs', hsig, hval⟩ := exists_slotIn?_of_views hd hv hs
  exact ⟨slot', u, v, w, hs', lookedUp_of_declarations hd hl, hsig ▸ hc, hval ▸ hne⟩

/-! ## Writes that leave the responses alone -/

theorem Store.values_modifyIn_value {n : Namespace} {slot : Slot}
    (h : s.slotIn? n id = some slot) :
    (s.modifyIn n id fun t => { t with value := slot.value }).values n = s.values n := by
  refine Table.ext_get? fun k => ?_
  rw [values, values, Table.get?_map, Table.get?_map, get?_slots, get?_slots, slotIn?_modifyIn]
  by_cases hk : k = id
  · subst hk
    simp [h]
  · simp [hk]

/-- Outside response processing a statement that is no look-up of an exposed name leaves the
responses alone. -/
theorem Change.responses_eq (h : Change phase a s t) (hp : phase ≠ .response)
    (hx : ∀ id e, a = .lookupOutcome id e → ¬ s.Exposes id) :
    t.values .response = s.values .response := by
  cases h with
  | @value n id slot v w hn hs hw hc =>
    by_cases hr : n = .response
    · subst hr
      rcases hw with hw | ⟨e, u, ha, hl⟩
      · exact absurd (of_decide_eq_true hw) hp
      · -- The name is not exposed, so what is written is there already.
        have : w = slot.value := Classical.byContradiction fun hne =>
          hx id e ha ⟨slot, u, v, w, hs, hl, hc, hne⟩
        rw [this]
        exact Store.values_modifyIn_value hs
    · rw [Store.values, Store.slots_modifyIn_of_ne (Ne.symm hr), ← Store.values]
  | default _ _ _ _ => exact Store.map_slots_modifyIn fun _ => rfl
  | correct _ _ _ => rw [Store.values, Store.slots_modify_correct, ← Store.values]

/-- The responses are the same after every run in which no exposed name is looked up. -/
theorem Program.responses_eq (env : Environment σ) (p : Program) (s : Stage σ)
    (hp : p.phase ≠ .response)
    (hx : ∀ id e, .lookupOutcome id e ∈ p.parts → ¬ s.store.Exposes id) :
    ((p.run env).runOn s).2.store.values .response = s.store.values .response := by
  suffices h : ((p.run env).runOn s).2.store.declarations = s.store.declarations ∧
      ((p.run env).runOn s).2.store.values .response = s.store.values .response from h.2
  refine p.run_preserves (P := fun t => t.declarations = s.store.declarations ∧
    t.values .response = s.store.values .response) ?_ s ⟨rfl, rfl⟩
  rintro a ha t t' hw ⟨hd, hv⟩
  refine ⟨hw.change.declarations_eq.trans hd, (hw.change.responses_eq hp ?_).trans hv⟩
  rintro id e rfl hexp
  exact hx id e ha (hexp.of_views hd hv)

/-! ## A look-up of an exposed name -/

/-- A source that a table resolves can be written down. -/
theorem LookupTable.exists_expr_of_resolve {table : LookupTable} {u v : Value}
    (h : table.resolve u = .ok v) :
    ∃ (e : Expr) (u' : Value), table.resolve u' = .ok v ∧
      ∀ {σ : Type} (env : Environment σ) (s : Store) (trail : Trail σ),
        (e.eval env s).runOn trail = (.ok u', trail) := by
  by_cases hu : u.isNull
  · refine ⟨.null, .null, ?_, fun env s trail => by rw [Expr.eval]; rfl⟩
    cases table <;>
      · simp only [resolve, hu, if_true] at h
        exact h
  · cases u with
    | single x => exact ⟨.literal x, .single x, h, fun env s trail => by rw [Expr.eval]; rfl⟩
    | null => exact absurd rfl hu
    | multiple c => cases table <;> simp [resolve, hu, sourceNumber?] at h
    | ordered c => cases table <;> simp [resolve, hu, sourceNumber?] at h
    | record fields => cases table <;> simp [resolve, hu, sourceNumber?] at h

theorem runOn_lookupOutcome {env : Environment σ} {e : Expr} {u v : Value} {trail : Trail σ}
    (he : (e.eval env s).runOn trail = (.ok u, trail)) (hl : lookedUp id u s = .ok v)
    (hs : s.setValue id v = .ok t) :
    (execute env phase (.lookupOutcome id e)).runOn ⟨s, trail⟩ = (.ok .proceed, ⟨t, trail⟩) := by
  rw [execute, Exec.runOn_bind_of_ok (a := u) (t := ⟨s, trail⟩) (by rw [Exec.runOn_eval, he]),
    Exec.runOn_bind_of_ok (a := v) (t := ⟨s, trail⟩) (by rw [Exec.runOn_read, hl]),
    Exec.runOn_bind_of_ok (Exec.runOn_update_of_ok hs)]
  rfl

/-- An exposed name is written by a single look-up, in every phase. -/
theorem Store.Exposes.exists_run (h : s.Exposes id) (phase : Phase) (env : Environment σ)
    (trail : Trail σ) :
    ∃ e, ((Program.run env ⟨phase, [.lookupOutcome id e]⟩).runOn ⟨s, trail⟩).2.store.values
      .response ≠ s.values .response := by
  obtain ⟨slot, u, v, w, hs, hl, hc, hne⟩ := h
  obtain ⟨o, table, ho, ht, hr⟩ := lookedUp_eq_ok_iff.1 hl
  obtain ⟨e, u', hr', he⟩ := LookupTable.exists_expr_of_resolve hr
  have hl' : lookedUp id u' s = .ok v := lookedUp_eq_ok_iff.2 ⟨o, table, ho, ht, hr'⟩
  have hn : s.namespaceOf? id = some .response := by
    obtain ⟨r, hr, -⟩ := Option.map_eq_some_iff.1 (show (s.responses.get? id).map _ = _ from hs)
    exact namespaceOf?_of_response hr
  have hset := setValue_eq_ok_iff.2 ⟨.response, slot, w, hn, hs, hc, rfl⟩
  have hrun : ((Program.run env ⟨phase, [.lookupOutcome id e]⟩).runOn ⟨s, trail⟩).2.store =
      s.modifyIn .response id fun t => { t with value := w } := by
    have hexec : (execute env phase (.lookupOutcome id e)).runOn ⟨s, trail⟩ = _ :=
      runOn_lookupOutcome (he env s trail) hl' hset
    rw [Program.run, executeAll, Exec.runOn_bind_of_ok hexec]
    rfl
  refine ⟨e, fun heq => hne ?_⟩
  rw [hrun] at heq
  have := congrArg (fun T : Table Value => T.get? id) heq
  simpa [values, get?_slots, slotIn?_modifyIn, hs] using this

/-! ## The exact condition -/

/-- A store where a response variable and an outcome variable with a table have one name. -/
def sharedName : Store :=
  let s := Store.empty.declareResponse ⟨"X", Store.plainResponse ⟨.single, some .identifier⟩⟩
  s.declareOutcome ⟨"X",
    { Store.plainOutcome ⟨.single, some .identifier⟩ .null with
      lookupTable := some (.matching (some (.identifier "A")) [⟨1, .identifier "B"⟩]) }⟩

/-- **When response variables are read-only.** Outside response processing, programs whose look-ups
name variables of `N` leave every response as it was, whether they end in a signal or in a fault,
exactly when no name of `N` is exposed. Programs without look-ups are the case of no name. -/
theorem Program.responses_readOnly_iff (env : Environment σ) (s : Stage σ) (phase : Phase)
    (hp : phase ≠ .response) (N : String → Prop) :
    (∀ p : Program, p.phase = phase → (∀ id e, .lookupOutcome id e ∈ p.parts → N id) →
      ((p.run env).runOn s).2.store.values .response = s.store.values .response) ↔
      ∀ id, N id → ¬ s.store.Exposes id := by
  constructor
  · intro h id hN hexp
    obtain ⟨e, hne⟩ := hexp.exists_run phase env s.trail
    refine hne (h ⟨phase, [.lookupOutcome id e]⟩ rfl ?_)
    intro id' e' hmem
    have : Statement.lookupOutcome id' e' = .lookupOutcome id e := by
      simpa [Program.parts, Statement.partsOfAll, Statement.parts] using hmem
    cases this
    exact hN
  · rintro h p rfl hN
    exact p.responses_eq env s hp fun id e hmem => h id (hN id e hmem)

/-- An outcome program that gives the shared name a value without a look-up leaves the response
alone. -/
theorem responses_readOnly_without_lookup :
    (((Program.mk .outcome [.assign .outcome "X" (.literal (.identifier "B"))]).run .replay).runOn
      ⟨sharedName, .start ⟨[], []⟩⟩).2.store.values .response = sharedName.values .response :=
  (Program.responses_readOnly_iff .replay ⟨sharedName, .start ⟨[], []⟩⟩ .outcome (by decide)
    fun _ => False).2 (fun _ h => h.elim) _ rfl
    (by simp [Program.parts, Statement.partsOfAll, Statement.parts])

/-- An outcome program that looks the shared name up gives the response the target of the table. -/
theorem response_written_in_outcome_processing :
    ∃ p : Program, p.phase = .outcome ∧
      ((p.run .replay).runOn ⟨sharedName, .start ⟨[], []⟩⟩).2.store.values
        .response ≠ sharedName.values .response := by
  refine ⟨⟨.outcome, [.lookupOutcome "X" .null]⟩, rfl, fun h => ?_⟩
  have : some (Value.single (.identifier "A")) = some .null :=
    congrArg (fun t : Table Value => t.get? "X") h
  cases this

end Assessment
