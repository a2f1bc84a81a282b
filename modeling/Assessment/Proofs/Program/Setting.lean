import Assessment.Proofs.Program.Write

/-!
# What the setting statements set

A statement that sets a variable says its kind and its name, but it writes what the name alone
means: the response variable of the name first, then the outcome variable, then the template
variable. So a name of several kinds can leave the variable that the statement says as it was, and
give the value to another.

The code is `assign` with `check_writable` before it, for setOutcomeValue, setResponseValue and
setTemplateValue. The first asks for an outcome variable of the name and then writes by `set_value`,
which prefers the response.

* `Store.Sets`: one variable has a new value, and everything else is as it was.
* `execute_sets`: which variable a statement sets, and when it is the one it says.
* `shared_name_sets_response`: an outcome variable to be set, and a response variable written.
-/

namespace Assessment

/-! ## Setting a variable of a store -/

namespace Store

variable {s t : Store} {n kind : Namespace} {id : String} {v : Value}

/-- The variable of a kind with a name holds a value, fitted to its signature. -/
def Holds (s : Store) (n : Namespace) (id : String) (v : Value) : Prop :=
  ∃ signature w, (s.declarations.signatures n).get? id = some signature ∧
    conform id v signature = .ok w ∧ (s.values n).get? id = some w

/-- **A variable is set**: it holds the value, and every other value, the defaults, the correct
responses and the declarations are as they were. -/
structure Sets (n : Namespace) (id : String) (v : Value) (s t : Store) : Prop where
  holds : t.Holds n id v
  values : ∀ m k, (m, k) ≠ (n, id) → (t.values m).get? k = (s.values m).get? k
  defaults : ∀ m, t.defaults m = s.defaults m
  keys : t.keys = s.keys
  declarations : t.declarations = s.declarations

theorem Holds.of_views (hd : t.declarations = s.declarations)
    (hv : (t.values n).get? id = (s.values n).get? id) (h : t.Holds n id v) : s.Holds n id v := by
  rwa [Holds, hd, hv] at h

/-- A variable that holds one value in two stores of the same declarations has the same there. -/
theorem Holds.get?_values_eq (hd : t.declarations = s.declarations) (ht : t.Holds n id v)
    (hs : s.Holds n id v) : (t.values n).get? id = (s.values n).get? id := by
  obtain ⟨signature, w, hsig, hw, hval⟩ := ht
  obtain ⟨signature', w', hsig', hw', hval'⟩ := hs
  rw [hd, hsig'] at hsig
  cases hsig
  rw [hw] at hw'
  cases hw'
  rw [hval, hval']

/-- **Setting one variable and not another.** What sets a variable sets one of another kind exactly
when both hold the value already. -/
theorem Sets.sets_iff (h : Sets n id v s t) :
    Sets kind id v s t ↔ n = kind ∨ s.Holds n id v ∧ s.Holds kind id v := by
  by_cases hn : n = kind
  · exact iff_of_true (hn ▸ h) (.inl hn)
  have hother : (kind, id) ≠ (n, id) := fun heq => hn (congrArg Prod.fst heq).symm
  constructor
  · intro hk
    refine .inr ⟨?_, ?_⟩
    · exact h.holds.of_views h.declarations (hk.values n id hother.symm)
    · exact hk.holds.of_views h.declarations (h.values kind id hother)
  · intro hheld
    obtain ⟨hsn, hsk⟩ := hheld.resolve_left hn
    have hvalues (m : Namespace) (k : String) : (t.values m).get? k = (s.values m).get? k := by
      by_cases hmk : (m, k) = (n, id)
      · cases hmk
        exact h.holds.get?_values_eq h.declarations hsn
      · exact h.values m k hmk
    exact
      { h with
        holds := hsk.of_views h.declarations.symm (hvalues kind id).symm
        values := fun m k _ => hvalues m k }

/-- A write sets the variable that the name means. -/
theorem setValue_sets (h : s.setValue id v = .ok t) :
    ∃ n, s.namespaceOf? id = some n ∧ Sets n id v s t := by
  obtain ⟨n, slot, w, hn, hs, hw, rfl⟩ := setValue_eq_ok_iff.1 h
  have hd : (s.modifyIn n id fun t => { t with value := w }).declarations = s.declarations :=
    declarations_modifyIn fun _ => rfl
  refine ⟨n, hn, ?_, fun m k hmk => ?_, fun m => map_slots_modifyIn fun _ => rfl, keys_modifyIn, hd⟩
  · refine ⟨slot.signature, w, ?_, hw, ?_⟩
    · rw [hd]
      simp [declarations, get?_slots, hs]
    · simp [values, get?_slots, slotIn?_modifyIn, hs]
  · have : ¬ (m = n ∧ k = id) := fun h => hmk (by rw [h.1, h.2])
    simp [values, get?_slots, slotIn?_modifyIn, this]

end Store

/-! ## The kinds of a name -/

/-- The place of a kind among those that a name can mean. -/
def Namespace.rank : Namespace → Nat
  | .response => 0
  | .outcome => 1
  | .template => 2

/-- A name that has a variable of a kind means it unless a kind before it has one too. -/
theorem Store.namespaceOf?_eq_iff_of_declared {s : Store} {kind : Namespace} {id : String}
    (h : (s.slotIn? kind id).isSome) :
    s.namespaceOf? id = some kind ↔ ∀ m, m.rank < kind.rank → s.slotIn? m id = none := by
  have hall (P : Namespace → Prop) : (∀ m, P m) ↔ P .response ∧ P .outcome ∧ P .template :=
    ⟨fun hP => ⟨hP _, hP _, hP _⟩, fun ⟨hr, ho, ht⟩ m => by cases m <;> assumption⟩
  rw [namespaceOf?_eq_some_iff, hall]
  cases kind <;> simp_all [slotIn?, Namespace.rank]

theorem checkDeclared_eq_ok_iff {s : Store} {kind : Namespace} {id : String} :
    checkDeclared kind id s = .ok () ↔ (s.slotIn? kind id).isSome := by
  cases kind with
  | response =>
    rw [checkDeclared, Store.response, Store.slotIn?]
    cases s.responses.get? id <;> simp [Except.map]
  | outcome =>
    rw [checkDeclared, Store.outcome, Store.slotIn?]
    cases s.outcomes.get? id <;> simp [Except.map]
  | template =>
    rw [checkDeclared, Store.template, Store.slotIn?]
    cases s.templates.get? id <;> simp [Except.map]

/-! ## The statements -/

/-- What a statement says it sets: the variable of a kind with a name, to a value. -/
structure Statement.Target (σ : Type) where
  kind : Namespace
  identifier : String
  given : Exec σ Value

variable {σ : Type} {env : Environment σ} {phase : Phase} {a : Statement} {s t : Stage σ}
  {x : Statement.Target σ}

/-- What a statement says it sets. The value given is that of its expression, for a look-up what the
table of the outcome variable holds for it. -/
def Statement.target? (env : Environment σ) : Statement → Option (Target σ)
  | .assign kind id e => some ⟨kind, id, Exec.eval env e⟩
  | .lookupOutcome id e => some ⟨.outcome, id, do
      let v ← Exec.eval env e
      Exec.read (lookedUp id v)⟩
  | _ => none

/-- A statement that sets a variable and completes has found the variable it says, and writes the
value given through the name. -/
theorem setValue_of_execute (ha : a.target? env = some x)
    (h : (execute env phase a).runOn s = (.ok .proceed, t)) :
    (s.store.slotIn? x.kind x.identifier).isSome ∧
      ∃ v, x.given.runOn s = (.ok v, ⟨s.store, t.trail⟩) ∧
        s.store.setValue x.identifier v = .ok t.store := by
  cases a with
  | assign kind id e =>
    cases ha
    rw [execute] at h
    obtain ⟨_, s₁, hdeclared, h⟩ := Exec.runOn_bind_eq_ok_iff.1 h
    obtain ⟨_, s₂, hwritable, h⟩ := Exec.runOn_bind_eq_ok_iff.1 h
    obtain ⟨v, s₃, hv, h⟩ := Exec.runOn_bind_eq_ok_iff.1 h
    obtain ⟨_, s₄, hupdate, h⟩ := Exec.runOn_bind_eq_ok_iff.1 h
    -- The checks leave the stage, and the evaluation leaves the store.
    cases congrArg Prod.snd hdeclared
    cases congrArg Prod.snd hwritable
    cases congrArg Prod.snd hv
    obtain ⟨store, hset, rfl⟩ := Exec.runOn_update_eq_ok_iff.1 hupdate
    cases h
    exact ⟨checkDeclared_eq_ok_iff.1 (congrArg Prod.fst hdeclared), v, hv, hset⟩
  | lookupOutcome id e =>
    cases ha
    rw [execute] at h
    obtain ⟨u, s₁, hu, h⟩ := Exec.runOn_bind_eq_ok_iff.1 h
    obtain ⟨v, s₂, hv, h⟩ := Exec.runOn_bind_eq_ok_iff.1 h
    obtain ⟨_, s₃, hupdate, h⟩ := Exec.runOn_bind_eq_ok_iff.1 h
    cases congrArg Prod.snd hu
    cases congrArg Prod.snd hv
    obtain ⟨store, hset, rfl⟩ := Exec.runOn_update_eq_ok_iff.1 hupdate
    cases h
    obtain ⟨o, table, ho, -, -⟩ := lookedUp_eq_ok_iff.1 (congrArg Prod.fst hv)
    refine ⟨?_, v, Exec.runOn_bind_eq_ok_iff.2 ⟨u, _, hu, hv⟩, hset⟩
    rw [Store.slotIn?, ho]
    rfl
  | _ => cases ha

/-- **What a setting statement sets.** A statement that sets a variable and completes sets the
variable that the name means to the value given. That is the variable it says exactly when no kind
before has a variable of the name, or both variables hold the value already. -/
theorem execute_sets (ha : a.target? env = some x)
    (h : (execute env phase a).runOn s = (.ok .proceed, t)) :
    ∃ v n, x.given.runOn s = (.ok v, ⟨s.store, t.trail⟩) ∧
      s.store.namespaceOf? x.identifier = some n ∧
      Store.Sets n x.identifier v s.store t.store ∧
      (Store.Sets x.kind x.identifier v s.store t.store ↔
        (∀ m, m.rank < x.kind.rank → s.store.slotIn? m x.identifier = none) ∨
          s.store.Holds n x.identifier v ∧ s.store.Holds x.kind x.identifier v) := by
  obtain ⟨hdeclared, v, hv, hset⟩ := setValue_of_execute ha h
  obtain ⟨n, hn, hsets⟩ := Store.setValue_sets hset
  refine ⟨v, n, hv, hn, hsets, ?_⟩
  rw [← Store.namespaceOf?_eq_iff_of_declared hdeclared, hn, Option.some.injEq]
  exact hsets.sets_iff

/-! ## A shared name -/

/-- A store where a response variable and an outcome variable have one name, and an outcome variable
has a name of its own. -/
def twoKinds : Store :=
  let s := Store.empty.declareResponse ⟨"X", Store.plainResponse ⟨.single, some .identifier⟩⟩
  let s := s.declareOutcome ⟨"X", Store.plainOutcome ⟨.single, some .identifier⟩ .null⟩
  s.declareOutcome ⟨"SCORE", Store.plainOutcome ⟨.single, some .float⟩ .null⟩

/-- In response processing the outcome variable of a name of its own is set to an integer, which it
holds as a float. -/
theorem execute_sets_score :
    ∃ t, (execute .replay .response (.assign .outcome "SCORE" (.literal (.integer 1)))).runOn
        ⟨twoKinds, .start (⟨[], []⟩ : RandomSource.Script)⟩ = (.ok .proceed, t) ∧
      Store.Sets .outcome "SCORE" (.single (.integer 1)) twoKinds t.store := by
  obtain ⟨t, hrun⟩ : ∃ t, (execute .replay .response
      (.assign .outcome "SCORE" (.literal (.integer 1)))).runOn
        ⟨twoKinds, .start (⟨[], []⟩ : RandomSource.Script)⟩ = (.ok .proceed, t) := ⟨_, rfl⟩
  obtain ⟨v, n, hv, -, -, hsets⟩ := execute_sets rfl hrun
  have hv : Except.ok (.single (.integer 1)) = Except.ok v := congrArg Prod.fst hv
  cases hv
  refine ⟨t, hrun, hsets.2 (.inl fun m hm => ?_)⟩
  cases m with
  | response => rfl
  | outcome | template => exact absurd hm (by decide)

/-- In response processing a value for the outcome variable of the shared name goes to the response
variable. -/
theorem shared_name_sets_response :
    ∃ t, (execute .replay .response (.assign .outcome "X" (.literal (.identifier "A")))).runOn
        ⟨twoKinds, .start (⟨[], []⟩ : RandomSource.Script)⟩ = (.ok .proceed, t) ∧
      (t.store.values .outcome).get? "X" = some .null ∧
      (t.store.values .response).get? "X" = some (.single (.identifier "A")) ∧
      ¬ Store.Sets .outcome "X" (.single (.identifier "A")) twoKinds t.store := by
  refine ⟨_, rfl, rfl, rfl, fun h => ?_⟩
  have := h.values .response "X" (by decide)
  cases this

end Assessment
