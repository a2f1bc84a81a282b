import Assessment.Proofs.Program.Exec
import Assessment.Proofs.Variable.View

/-!
# What runs of statements write

A run moves a stage by evaluations, which change the trail alone, and by writes, which change the
store alone. `Write` lists the writes of the single statements with everything that was checked
before them; `Exec.Covers` is what a relation between stages needs for runs to stay within it.

The code is the arms of `execute_statement`. Every later result on programs (what they leave alone,
what they keep finite or well typed, which names they reach) is one case analysis on `Write` and one
use of `Exec.Covers`, so a change to one statement is felt in one case.

* `Write.change`: a write gives one variable a new value, default or correct response, fitted to
  its signature, in the phases that allow it.
* `Exec.Covers.runOn_execute`, `Exec.Covers.runOn_executeAll`: a run stays within every relation
  that covers evaluations and the writes of its parts, whether it ends in a signal or in a fault.
* `Program.run_preserves`: what every write of a program preserves, its runs preserve.
-/

namespace Assessment

variable {σ β : Type}

/-! ## Writes -/

/-- An expression gives a value on a store, for some state of the source. -/
def Expr.Yields (env : Environment σ) (s : Store) (e : Expr) (v : Value) : Prop :=
  ∃ trail, ((e.eval env s).runOn trail).1 = .ok v

/-- **What a statement writes when it completes**, with what it has checked by then. -/
inductive Write (env : Environment σ) (phase : Phase) : Statement → Store → Store → Prop
  | assign {kind n : Namespace} {id : String} {e : Expr} {v : Value} {s t : Store} :
      checkDeclared kind id s = .ok () → s.namespaceOf? id = some n → phase.mayWrite n →
      e.Yields env s v → s.setValue id v = .ok t → Write env phase (.assign kind id e) s t
  | setCorrect {id : String} {e : Expr} {v : Value} {s t : Store} :
      phase = .template → e.Yields env s v → s.setCorrect id v = .ok t →
      Write env phase (.setCorrect id e) s t
  | setDefault {id : String} {e : Expr} {v : Value} {s t : Store} :
      phase = .template → e.Yields env s v → s.setDefault id v = .ok t →
      Write env phase (.setDefault id e) s t
  | reset {n : Namespace} {id : String} {s t : Store} :
      s.namespaceOf? id = some n → phase.mayWrite n → s.resetToDefault id = .ok t →
      Write env phase (.reset id) s t
  | lookup {id : String} {e : Expr} {v w : Value} {s t : Store} :
      e.Yields env s v → lookedUp id v s = .ok w → s.setValue id w = .ok t →
      Write env phase (.lookupOutcome id e) s t

theorem checkWritable_eq_ok_iff {phase : Phase} {id : String} {s : Store} :
    checkWritable phase id s = .ok () ↔ ∃ n, s.namespaceOf? id = some n ∧ phase.mayWrite n := by
  unfold checkWritable
  cases s.namespaceOf? id with
  | none => simp
  | some n => cases h : phase.mayWrite n <;> simp [h]

theorem requireTemplate_eq_ok_iff {phase : Phase} {name : String} :
    requireTemplate phase name = .ok () ↔ phase = .template := by
  unfold requireTemplate
  by_cases h : phase = .template <;> simp [h]

theorem lookedUp_eq_ok_iff {id : String} {u v : Value} {s : Store} :
    lookedUp id u s = .ok v ↔
      ∃ o table, s.outcomes.get? id = some o ∧ o.lookupTable = some table ∧
        table.resolve u = .ok v := by
  unfold lookedUp
  rw [bind_eq_ok_iff]
  constructor
  · rintro ⟨o, ho, h⟩
    cases ht : o.lookupTable with
    | none =>
      rw [ht] at h
      cases h
    | some table =>
      rw [ht] at h
      exact ⟨o, table, Store.outcome_eq_ok_iff.1 ho, ht, h⟩
  · rintro ⟨o, table, ho, ht, h⟩
    refine ⟨o, Store.outcome_eq_ok_iff.2 ho, ?_⟩
    rw [ht]
    exact h

/-! ## What a write changes -/

/-- What a statement changes in a store, with what allows it. -/
inductive Change (phase : Phase) (a : Statement) (s : Store) : Store → Prop
  | value {n : Namespace} {id : String} {slot : Slot} {v w : Value} :
      s.namespaceOf? id = some n → s.slotIn? n id = some slot →
      (phase.mayWrite n ∨ ∃ e u, a = .lookupOutcome id e ∧ lookedUp id u s = .ok v) →
      conform id v slot.signature = .ok w →
      Change phase a s (s.modifyIn n id fun slot => { slot with value := w })
  | default {n : Namespace} {id : String} {slot : Slot} {v w : Value} :
      s.namespaceOf? id = some n → s.slotIn? n id = some slot → phase = .template →
      conform id v slot.signature = .ok w →
      Change phase a s (s.modifyIn n id fun slot => { slot with default := w })
  | correct {id : String} {r : ResponseVariable} {v w : Value} :
      s.responses.get? id = some r → phase = .template → conform id v r.signature = .ok w →
      Change phase a s
        { s with responses := s.responses.modify id fun r => { r with correct := w } }

/-- **A write changes one variable**, by a value that fits its signature. -/
theorem Write.change {env : Environment σ} {phase : Phase} {a : Statement} {s t : Store}
    (h : Write env phase a s t) : Change phase a s t := by
  cases h with
  | assign _ hn hw _ ht =>
    obtain ⟨n, slot, w, hn', hs, hc, rfl⟩ := Store.setValue_eq_ok_iff.1 ht
    cases hn.symm.trans hn'
    exact .value hn hs (.inl hw) hc
  | setCorrect hp _ ht =>
    obtain ⟨r, w, hr, hc, rfl⟩ := Store.setCorrect_eq_ok_iff.1 ht
    exact .correct hr hp hc
  | setDefault hp _ ht =>
    obtain ⟨n, slot, w, hn, hs, hc, rfl⟩ := Store.setDefault_eq_ok_iff.1 ht
    exact .default hn hs hp hc
  | reset hn hw ht =>
    obtain ⟨n, slot, w, hn', hs, hc, rfl⟩ := Store.resetToDefault_eq_ok_iff.1 ht
    cases hn.symm.trans hn'
    exact .value hn hs (.inl hw) hc
  | lookup _ hl ht =>
    obtain ⟨n, slot, w, hn, hs, hc, rfl⟩ := Store.setValue_eq_ok_iff.1 ht
    exact .value hn hs (.inr ⟨_, _, rfl, hl⟩) hc

/-! ## Parts -/

mutual

/-- The statements without statements in them that a statement is made of. -/
def Statement.parts : Statement → List Statement
  | .condition first others otherwise =>
    first.parts ++ Branch.partsOfAll others ++ Statement.partsOfAll otherwise
  | .fragment body => Statement.partsOfAll body
  | a => [a]

/-- The parts of statements, in order. -/
def Statement.partsOfAll : List Statement → List Statement
  | [] => []
  | a :: rest => a.parts ++ Statement.partsOfAll rest

/-- The parts of the statements of a branch. -/
def Branch.parts : Branch → List Statement
  | .mk _ body => Statement.partsOfAll body

/-- The parts of branches, in order. -/
def Branch.partsOfAll : List Branch → List Statement
  | [] => []
  | b :: rest => b.parts ++ Branch.partsOfAll rest

end

/-- The parts of a program. -/
def Program.parts (p : Program) : List Statement := Statement.partsOfAll p.statements

/-! ## Runs -/

/-- What a relation between stages needs for runs to stay within it: that nothing happens, that one
thing happens after another, that an expression is evaluated, and that a statement writes. -/
structure Exec.Covers (env : Environment σ) (phase : Phase) (P : Statement → Prop)
    (R : Stage σ → Stage σ → Prop) : Prop where
  refl : ∀ s, R s s
  trans : ∀ {s t u}, R s t → R t u → R s u
  eval : ∀ (e : Expr) (s : Stage σ), R s ((Exec.eval env e).runOn s).2
  write : ∀ {a : Statement} {s : Stage σ} {t : Store},
    P a → Write env phase a s.store t → R s { s with store := t }

namespace Exec.Covers

variable {env : Environment σ} {phase : Phase} {P : Statement → Prop}
  {R : Stage σ → Stage σ → Prop} {s : Stage σ}

/-- An evaluation leaves the store and gives a value that the expression yields on it. -/
theorem eval_bind (h : Covers env phase P R) {e : Expr} {k : Value → Exec σ β}
    (hk : ∀ v trail, e.Yields env s.store v →
      R { s with trail } ((k v).runOn { s with trail }).2) :
    R s ((Exec.eval env e >>= k).runOn s).2 := by
  refine Exec.within_bind R h.trans (h.eval e s) fun v t hv => ?_
  rw [Exec.runOn_eval, Prod.mk.injEq] at hv
  obtain ⟨hv, rfl⟩ := hv
  exact hk v _ ⟨s.trail, hv⟩

theorem holds_bind (h : Covers env phase P R) {e : Expr} {k : Bool → Exec σ β}
    (hk : ∀ b t, R t ((k b).runOn t).2) : R s ((holds env e >>= k).runOn s).2 := by
  refine Exec.within_bind R h.trans ?_ fun b t _ => hk b t
  exact h.eval_bind fun v trail _ => h.refl _

mutual

/-- **A run of a statement** stays within a relation that covers the writes of its parts. -/
theorem runOn_execute (h : Covers env phase P R) :
    ∀ (a : Statement), (∀ b ∈ a.parts, P b) → ∀ s, R s ((execute env phase a).runOn s).2
  | .condition first others otherwise, hp, s => by
    rw [execute]
    refine Exec.within_bind R h.trans (runOn_executeBranch h first (fun b hb => hp b ?_) s)
      fun r t _ => ?_
    · rw [Statement.parts]
      exact List.mem_append_left _ (List.mem_append_left _ hb)
    cases r with
    | some signal => exact h.refl t
    | none =>
      refine Exec.within_bind R h.trans (runOn_executeBranches h others (fun b hb => hp b ?_) t)
        fun r u _ => ?_
      · rw [Statement.parts]
        exact List.mem_append_left _ (List.mem_append_right _ hb)
      cases r with
      | some signal => exact h.refl u
      | none =>
        refine runOn_executeAll h otherwise (fun b hb => hp b ?_) u
        rw [Statement.parts]
        exact List.mem_append_right _ hb
  | .assign kind id e, hp, s => by
    rw [execute]
    refine Exec.within_read_bind R h.refl fun _ hd => ?_
    refine Exec.within_read_bind R h.refl fun _ hw => ?_
    obtain ⟨n, hn, hw⟩ := checkWritable_eq_ok_iff.1 hw
    -- An evaluation leaves the store alone, so what was checked holds of the store written to.
    refine h.eval_bind fun v trail he => ?_
    refine Exec.within_update_bind R h.refl fun t ht => ?_
    exact h.write (hp _ (by simp [Statement.parts])) (.assign hd hn hw he ht)
  | .setCorrect id e, hp, s => by
    rw [execute]
    refine Exec.within_read_bind R h.refl fun _ hr => ?_
    refine Exec.within_read_bind R h.refl fun _ _ => ?_
    refine h.eval_bind fun v trail he => ?_
    refine Exec.within_update_bind R h.refl fun t ht => ?_
    exact h.write (hp _ (by simp [Statement.parts]))
      (.setCorrect (requireTemplate_eq_ok_iff.1 hr) he ht)
  | .setDefault id e, hp, s => by
    rw [execute]
    refine Exec.within_read_bind R h.refl fun _ hr => ?_
    refine h.eval_bind fun v trail he => ?_
    refine Exec.within_update_bind R h.refl fun t ht => ?_
    exact h.write (hp _ (by simp [Statement.parts]))
      (.setDefault (requireTemplate_eq_ok_iff.1 hr) he ht)
  | .reset id, hp, s => by
    rw [execute]
    refine Exec.within_read_bind R h.refl fun _ hw => ?_
    obtain ⟨n, hn, hw⟩ := checkWritable_eq_ok_iff.1 hw
    refine Exec.within_update_bind R h.refl fun t ht => ?_
    exact h.write (hp _ (by simp [Statement.parts])) (.reset hn hw ht)
  | .lookupOutcome id e, hp, s => by
    rw [execute]
    refine h.eval_bind fun v trail he => ?_
    refine Exec.within_read_bind R h.refl fun w hw => ?_
    refine Exec.within_update_bind R h.refl fun t ht => ?_
    exact h.write (hp _ (by simp [Statement.parts])) (.lookup he hw ht)
  | .constraint test, _, s => by
    rw [execute]
    refine Exec.within_read_bind R h.refl fun _ _ => ?_
    exact h.holds_bind fun b t => h.refl t
  | .exit target, _, s => by
    rw [execute]
    exact h.refl s
  | .fragment body, hp, s => by
    rw [execute]
    exact runOn_executeAll h body (fun b hb => hp b (by rwa [Statement.parts])) s

/-- **A run of statements** stays within a relation that covers the writes of their parts. -/
theorem runOn_executeAll (h : Covers env phase P R) :
    ∀ (l : List Statement), (∀ b ∈ Statement.partsOfAll l, P b) →
      ∀ s, R s ((executeAll env phase l).runOn s).2
  | [], _, s => by
    rw [executeAll]
    exact h.refl s
  | a :: rest, hp, s => by
    rw [executeAll]
    refine Exec.within_bind R h.trans (runOn_execute h a (fun b hb => hp b ?_) s) fun r t _ => ?_
    · rw [Statement.partsOfAll]
      exact List.mem_append_left _ hb
    cases r with
    | proceed =>
      refine runOn_executeAll h rest (fun b hb => hp b ?_) t
      rw [Statement.partsOfAll]
      exact List.mem_append_right _ hb
    | exit target => exact h.refl t
    | constraintFailed => exact h.refl t

theorem runOn_executeBranch (h : Covers env phase P R) :
    ∀ (b : Branch), (∀ a ∈ b.parts, P a) → ∀ s, R s ((executeBranch env phase b).runOn s).2
  | .mk test body, hp, s => by
    rw [executeBranch]
    refine h.holds_bind fun b t => ?_
    cases b with
    | false => exact h.refl t
    | true =>
      refine Exec.within_bind R h.trans
        (runOn_executeAll h body (fun a ha => hp a (by rwa [Branch.parts])) t) fun _ u _ => ?_
      exact h.refl u

theorem runOn_executeBranches (h : Covers env phase P R) :
    ∀ (l : List Branch), (∀ a ∈ Branch.partsOfAll l, P a) →
      ∀ s, R s ((executeBranches env phase l).runOn s).2
  | [], _, s => by
    rw [executeBranches]
    exact h.refl s
  | b :: rest, hp, s => by
    rw [executeBranches]
    refine Exec.within_bind R h.trans (runOn_executeBranch h b (fun a ha => hp a ?_) s)
      fun r t _ => ?_
    · rw [Branch.partsOfAll]
      exact List.mem_append_left _ ha
    cases r with
    | some signal => exact h.refl t
    | none =>
      refine runOn_executeBranches h rest (fun a ha => hp a ?_) t
      rw [Branch.partsOfAll]
      exact List.mem_append_right _ ha

end

end Exec.Covers

/-- **What every write of a program preserves, its runs preserve**, whether they end in a signal or
in a fault. -/
theorem Program.run_preserves {env : Environment σ} {p : Program} {P : Store → Prop}
    (hw : ∀ a ∈ p.parts, ∀ s t, Write env p.phase a s t → P s → P t) :
    Exec.Preserves P (p.run env) := by
  have hc : Exec.Covers env p.phase (· ∈ p.parts) fun s t : Stage σ => P s.store → P t.store :=
    { refl := fun _ hs => hs
      trans := fun hst htu hs => htu (hst hs)
      eval := fun _ _ hs => hs
      write := fun ha hwr => hw _ ha _ _ hwr }
  exact hc.runOn_executeAll p.statements fun _ hb => hb

end Assessment
