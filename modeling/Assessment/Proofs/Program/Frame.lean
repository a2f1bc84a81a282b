import Assessment.Proofs.Program.Write

/-!
# What programs leave alone

No program changes what is declared. Response and outcome programs leave the correct responses, the
declared defaults and the template variables alone as well. A name that several kinds share makes no
difference: a write is permitted by the kind that the name means, and goes to that kind.

The code is `execute_statements` with everything under it. The permission is asked by one look-up of
the name (`check_writable`), and the write goes by another (`set_value`, `reset_to_default`); that
both prefer the same kind is what the proof shows for each of the statements, lookupOutcomeValue
included, which asks for no permission.

* `Program.run_frame`: what is the same after a run of a program, by its phase.
-/

namespace Assessment

variable {σ : Type} {phase : Phase} {a : Statement} {s t : Store}

/-- No statement changes what is declared. -/
theorem Change.declarations_eq (h : Change phase a s t) : t.declarations = s.declarations := by
  cases h with
  | value _ _ _ _ => exact Store.declarations_modifyIn fun _ => rfl
  | default _ _ _ _ => exact Store.declarations_modifyIn fun _ => rfl
  | correct _ _ _ => exact Store.declarations_modify_correct s _ _

/-- Correct responses change in template processing alone. -/
theorem Change.keys_eq (h : Change phase a s t) (hp : phase ≠ .template) : t.keys = s.keys := by
  cases h with
  | value _ _ _ _ => exact Store.keys_modifyIn
  | default _ _ hp' _ => exact absurd hp' hp
  | correct _ hp' _ => exact absurd hp' hp

/-- Declared defaults change in template processing alone. -/
theorem Change.defaults_eq (h : Change phase a s t) (hp : phase ≠ .template) (n : Namespace) :
    t.defaults n = s.defaults n := by
  cases h with
  | value _ _ _ _ => exact Store.map_slots_modifyIn fun _ => rfl
  | default _ _ hp' _ => exact absurd hp' hp
  | correct _ hp' _ => exact absurd hp' hp

/-- A look-up writes a response or an outcome variable, whatever else has its name. -/
theorem namespaceOf?_ne_template_of_lookedUp {id : String} {u v : Value} {n : Namespace}
    (h : lookedUp id u s = .ok v) (hn : s.namespaceOf? id = some n) : n ≠ .template := by
  obtain ⟨o, _, ho, -⟩ := lookedUp_eq_ok_iff.1 h
  exact Store.namespaceOf?_ne_template ho hn

/-- Template variables change in template processing alone. -/
theorem Change.templates_eq (h : Change phase a s t) (hp : phase ≠ .template) :
    t.values .template = s.values .template := by
  cases h with
  | @value n id slot v w hn _ hw _ =>
    have hne : n ≠ .template := by
      rcases hw with hw | ⟨_, _, _, hl⟩
      · -- Were it a template variable, the phase would have to be its own.
        rintro rfl
        exact hp (of_decide_eq_true hw)
      · exact namespaceOf?_ne_template_of_lookedUp hl hn
    rw [Store.values, Store.slots_modifyIn_of_ne hne.symm, ← Store.values]
  | default _ _ hp' _ => exact absurd hp' hp
  | correct _ hp' _ => exact absurd hp' hp

/-- **The frame of a run.** Whether a program ends in a signal or in a fault, what is declared is
the same after it; after a response or outcome program so are the correct responses, the declared
defaults of every kind, and the values of the template variables. -/
theorem Program.run_frame (env : Environment σ) (p : Program) (s : Stage σ) :
    ((p.run env).runOn s).2.store.declarations = s.store.declarations ∧
      (p.phase = .response ∨ p.phase = .outcome →
        ((p.run env).runOn s).2.store.keys = s.store.keys ∧
        (∀ n, ((p.run env).runOn s).2.store.defaults n = s.store.defaults n) ∧
        ((p.run env).runOn s).2.store.values .template = s.store.values .template) := by
  constructor
  · exact p.run_preserves (P := fun t => t.declarations = s.store.declarations)
      (fun _ _ _ _ hw h => hw.change.declarations_eq.trans h) s rfl
  · intro hp
    have hp : p.phase ≠ .template := by
      rcases hp with hp | hp <;> simp [hp]
    refine p.run_preserves (P := fun t => t.keys = s.store.keys ∧
      (∀ n, t.defaults n = s.store.defaults n) ∧ t.values .template = s.store.values .template)
      ?_ s ⟨rfl, fun _ => rfl, rfl⟩
    rintro _ _ _ _ hw ⟨hk, hd, ht⟩
    exact ⟨(hw.change.keys_eq hp).trans hk, fun n => (hw.change.defaults_eq hp n).trans (hd n),
      (hw.change.templates_eq hp).trans ht⟩

/-! ## A name of three kinds -/

/-- A store where a response variable with a key, an outcome variable with a default and a template
variable with a value have one name. -/
def threeKinds : Store :=
  let s := Store.empty.declareResponse ⟨"X",
    { Store.plainResponse ⟨.single, some .identifier⟩ with correct := .single (.identifier "A") }⟩
  let s := s.declareOutcome ⟨"X",
    Store.plainOutcome ⟨.single, some .integer⟩ (.single (.integer 1))⟩
  s.declareTemplate ⟨"X", ⟨Slot.ofDefault ⟨.single, some .identifier⟩ (.single (.identifier "B"))⟩⟩

/-- A response program that gives the shared name a value and then tries to replace its key ends in
a fault. The response is written, and the key, the defaults and the template variable stand. -/
theorem run_frame_shared :
    let p : Program := ⟨.response, [.assign .response "X" (.literal (.identifier "C")),
      .setCorrect "X" (.literal (.identifier "C"))]⟩
    let after := (p.run .replay).runOn ⟨threeKinds, .start ⟨[], []⟩⟩
    after.1 = .error (.statementNotPermitted "setCorrectResponse" .response) ∧
      (after.2.store.values .response).get? "X" = some (.single (.identifier "C")) ∧
      after.2.store.declarations = threeKinds.declarations ∧
      after.2.store.keys = threeKinds.keys ∧
      (∀ n, after.2.store.defaults n = threeKinds.defaults n) ∧
      after.2.store.values .template = threeKinds.values .template := by
  intro p after
  have hframe := Program.run_frame .replay p ⟨threeKinds, .start ⟨[], []⟩⟩
  obtain ⟨hkeys, hdefaults, htemplates⟩ := hframe.2 (.inl rfl)
  exact ⟨rfl, rfl, hframe.1, hkeys, hdefaults, htemplates⟩

end Assessment
