import Assessment.Document
import Assessment.Proofs.Interchange.Declaration
import Assessment.Proofs.Program.Template

/-!
# Reachable stores are well typed

A store is reached from the built-in variables by declarations that are read and by operations: what
the users of a store do to it, runs of programs among them. An operation that ends in a fault leaves
what it has written by then.

The operations are the public methods of `VariableContext`, the two ways of running a program, and
the declarations of documents.

* `Store.Reachable.wellTyped_and_resets`: every value, default and correct response of a reachable
  store fits its signature, and every declared variable can be reset.
-/

namespace Assessment

variable {σ : Type}

/-- What is done to a store. -/
inductive Operation (σ : Type) where
  | bind (responses : List (String × Json))
  | setValue (identifier : String) (v : Value)
  | setCorrect (identifier : String) (v : Value)
  | setDefault (identifier : String) (v : Value)
  | resetToDefault (identifier : String)
  | resetOutcomes
  | resetTemplates
  | execute (env : Environment σ) (p : Program)
  | instantiate (env : Environment σ) (p : Program) (maxAttempts : Nat)

/-- Does an operation. -/
def Operation.run : Operation σ → Exec σ Unit
  | .bind responses => bindAll responses
  | .setValue id v => Exec.update fun s => s.setValue id v
  | .setCorrect id v => Exec.update fun s => s.setCorrect id v
  | .setDefault id v => Exec.update fun s => s.setDefault id v
  | .resetToDefault id => Exec.update fun s => s.resetToDefault id
  | .resetOutcomes => Exec.update fun s => .ok s.resetOutcomes
  | .resetTemplates => Exec.update fun s => .ok s.resetTemplates
  | .execute env p => do
    let _ ← p.run env
    pure ()
  | .instantiate env p maxAttempts => do
    let _ ← Assessment.instantiate env p maxAttempts
    pure ()

/-- The stores that declarations and operations lead to, whether an operation ends well or in a
fault. -/
inductive Store.Reachable : Store → Prop
  | empty : Reachable empty
  | builtins : Reachable builtins
  | declareResponse {s : Store} {j : Json} {d : Declaration ResponseVariable} :
      Reachable s → Interchange.responseDeclaration j = .ok d → Reachable (s.declareResponse d)
  | declareOutcome {s : Store} {j : Json} {d : Declaration OutcomeVariable} :
      Reachable s → Interchange.outcomeDeclaration j = .ok d → Reachable (s.declareOutcome d)
  | declareTemplate {s : Store} {j : Json} {d : Declaration TemplateVariable} :
      Reachable s → Interchange.templateDeclaration j = .ok d → Reachable (s.declareTemplate d)
  | operate {σ : Type} {s : Store} (o : Operation σ) (trail : Trail σ) :
      Reachable s → Reachable (o.run.runOn ⟨s, trail⟩).2.store

/-! ## Operations keep stores well typed -/

variable {phase : Phase} {a : Statement} {s t : Store}

theorem Change.wellTyped (h : Change phase a s t) (hs : s.WellTyped) : t.WellTyped := by
  cases h with
  | value _ ht _ hw => exact hs.modifyIn_value ht hw
  | default _ ht _ hw => exact hs.modifyIn_default ht hw
  | correct hr _ hw => exact hs.modify_correct hr hw

/-- **Runs keep stores well typed**, whether they end in a signal or in a fault. -/
theorem Program.run_wellTyped (env : Environment σ) (p : Program) :
    Exec.Preserves Store.WellTyped (p.run env) :=
  p.run_preserves fun _ _ _ _ hw h => hw.change.wellTyped h

theorem instantiate_wellTyped (env : Environment σ) (p : Program) (m : Nat) :
    Exec.Preserves Store.WellTyped (instantiate env p m) :=
  instantiate_preserves (fun _ hs => hs.resetTemplates) (p.run_wellTyped env) m

theorem Store.WellTyped.bindResponse {id : String} {j : Json} (hs : s.WellTyped)
    (h : s.bindResponse id j = .ok t) : t.WellTyped := by
  obtain ⟨r, -, h⟩ := bind_eq_ok_iff.1 h
  obtain ⟨v, -, h⟩ := bind_eq_ok_iff.1 h
  exact hs.setValue h

/-- The responses bound before a fault stay bound. -/
theorem bindAll_wellTyped :
    ∀ l : List (String × Json), Exec.Preserves Store.WellTyped (bindAll l : Exec σ Unit)
  | [] => .pure ()
  | (_, _) :: rest =>
    .bind (.update fun _ _ h hs => hs.bindResponse h) fun _ => bindAll_wellTyped rest

/-- **Every operation keeps stores well typed.** -/
theorem Operation.run_wellTyped (o : Operation σ) : Exec.Preserves Store.WellTyped o.run := by
  cases o with
  | bind responses => exact bindAll_wellTyped responses
  | setValue id v => exact .update fun _ _ h hs => hs.setValue h
  | setCorrect id v => exact .update fun _ _ h hs => hs.setCorrect h
  | setDefault id v => exact .update fun _ _ h hs => hs.setDefault h
  | resetToDefault id => exact .update fun _ _ h hs => hs.resetToDefault h
  | resetOutcomes => exact fun _ hs => hs.resetOutcomes
  | resetTemplates => exact fun _ hs => hs.resetTemplates
  | execute env p => exact .bind (p.run_wellTyped env) fun _ => .pure ()
  | instantiate env p m => exact .bind (instantiate_wellTyped env p m) fun _ => .pure ()

/-! ## Reachable stores -/

theorem Store.Reachable.wellTyped (h : s.Reachable) : s.WellTyped := by
  induction h with
  | empty => exact wellTyped_empty
  | builtins => exact wellTyped_builtins
  | declareResponse _ hd ih =>
    obtain ⟨hs, hc⟩ := Interchange.wellTyped_responseDeclaration hd
    exact ih.declareResponse hs hc
  | declareOutcome _ hd ih => exact ih.declareOutcome (Interchange.wellTyped_outcomeDeclaration hd)
  | declareTemplate _ hd ih =>
    exact ih.declareTemplate (Interchange.wellTyped_templateDeclaration hd)
  | operate o trail _ ih => exact o.run_wellTyped _ ih

/-- **Reachable stores are well typed, and their variables can be reset.** The value, the default
and the correct response of every variable fit its signature, and a reset of a declared variable
succeeds and leaves it with its default as value. -/
theorem Store.Reachable.wellTyped_and_resets (h : s.Reachable) :
    s.WellTyped ∧ ∀ id, s.isDeclared id →
      ∃ v t, s.default id = .ok v ∧ s.resetToDefault id = .ok t ∧ t.value id = .ok v ∧
        t.default id = .ok v :=
  ⟨h.wellTyped, fun _ hd => h.wellTyped.exists_resetToDefault hd⟩

/-- A declaration of an outcome variable. -/
def gradeDeclaration : Json :=
  .obj [("identifier", .str "GRADE"), ("cardinality", .str "single"),
    ("baseType", .str "identifier"), ("defaultValue", .str "F")]

/-- The store of an item that declares the grade and whose program gives one. -/
def gradeStore : Store :=
  let s := Store.builtins.declareOutcome ⟨"GRADE",
    Store.plainOutcome ⟨.single, some .identifier⟩ (.single (.identifier "F"))⟩
  let give : Program := ⟨.response, [.assign .outcome "GRADE" (.literal (.identifier "A"))]⟩
  ((Operation.execute .replay give).run.runOn ⟨s, .start ⟨[], []⟩⟩).2.store

theorem reachable_gradeStore : gradeStore.Reachable := by
  have hd : Interchange.outcomeDeclaration gradeDeclaration = .ok _ := rfl
  exact .operate _ _ (.declareOutcome .builtins hd)

/-- The grade can be taken back to its default. -/
theorem gradeStore_resets :
    gradeStore.value "GRADE" = .ok (.single (.identifier "A")) ∧
      ∃ v t, gradeStore.default "GRADE" = .ok v ∧ gradeStore.resetToDefault "GRADE" = .ok t ∧
        t.value "GRADE" = .ok v ∧ t.default "GRADE" = .ok v :=
  ⟨rfl, (Store.Reachable.wellTyped_and_resets reachable_gradeStore).2 "GRADE" rfl⟩

end Assessment
