import Assessment.Program.Execute
import Assessment.Proofs.Result

/-!
# Computations on a stage

A computation that looks at the store, changes it or evaluates an expression moves its stage in a
known way, and a chain of computations moves it step by step.

`execute_statement` reads the context, evaluates, and writes to it. These lemmas say how each of the
three moves a stage, so that a statement is a chain of known moves.

* `Exec.Preserves`: a computation keeps a property of the store, whether it ends well or in a fault.
* `Exec.within_bind`, `Exec.within_read_bind`, `Exec.within_update_bind`: a chain stays within a
  relation between stages when its steps do.
-/

namespace Assessment

variable {σ α β : Type}

namespace Exec

variable {s : Stage σ}

/-! ## Equations of the computations on a stage -/

theorem runOn_bind_of_ok {m : Exec σ α} {k : α → Exec σ β} {a : α} {t : Stage σ}
    (h : m.runOn s = (.ok a, t)) : (m >>= k).runOn s = (k a).runOn t :=
  bind_apply_of_ok h

theorem runOn_bind_of_error {m : Exec σ α} {k : α → Exec σ β} {e : Fault} {t : Stage σ}
    (h : m.runOn s = (.error e, t)) : (m >>= k).runOn s = (.error e, t) :=
  bind_apply_of_error h

theorem runOn_bind_eq_ok_iff {m : Exec σ α} {k : α → Exec σ β} {b : β} {u : Stage σ} :
    (m >>= k).runOn s = (.ok b, u) ↔
      ∃ a t, m.runOn s = (.ok a, t) ∧ (k a).runOn t = (.ok b, u) :=
  bind_apply_eq_ok_iff

theorem runOn_bind_eq_error_iff {m : Exec σ α} {k : α → Exec σ β} {e : Fault} {u : Stage σ} :
    (m >>= k).runOn s = (.error e, u) ↔
      m.runOn s = (.error e, u) ∨
        ∃ a t, m.runOn s = (.ok a, t) ∧ (k a).runOn t = (.error e, u) := by
  rcases hm : m.runOn s with ⟨r, t⟩
  cases r with
  | error e' => simp [runOn_bind_of_error hm]
  | ok a =>
    rw [runOn_bind_of_ok hm]
    constructor
    · exact fun h => .inr ⟨a, t, rfl, h⟩
    · rintro (h | ⟨_, _, h, h'⟩)
      · cases h
      · cases h
        exact h'

theorem runOn_bind_pure_snd (m : Exec σ α) (g : α → β) (s : Stage σ) :
    ((m >>= fun a => pure (g a)).runOn s).2 = (m.runOn s).2 := by
  rcases h : m.runOn s with ⟨r, t⟩
  cases r with
  | error e => rw [runOn_bind_of_error h]
  | ok a =>
    rw [runOn_bind_of_ok h]
    rfl

theorem runOn_read (f : Store → Except Fault α) (s : Stage σ) :
    (read f : Exec σ α).runOn s = (f s.store, s) := rfl

theorem runOn_update_of_ok {f : Store → Except Fault Store} {t : Store} (h : f s.store = .ok t) :
    (update f : Exec σ Unit).runOn s = (.ok (), { s with store := t }) := by
  simp only [runOn, update, h]

theorem runOn_update_of_error {f : Store → Except Fault Store} {e : Fault}
    (h : f s.store = .error e) : (update f : Exec σ Unit).runOn s = (.error e, s) := by
  simp only [runOn, update, h]

theorem runOn_update_eq_ok_iff {f : Store → Except Fault Store} {u : Unit} {t : Stage σ} :
    (update f : Exec σ Unit).runOn s = (.ok u, t) ↔
      ∃ store, f s.store = .ok store ∧ t = { s with store } := by
  cases h : f s.store with
  | error e => simp [runOn_update_of_error h]
  | ok store => simp [runOn_update_of_ok h, eq_comm]

theorem runOn_eval (env : Environment σ) (e : Expr) (s : Stage σ) :
    (eval env e).runOn s =
      (((e.eval env s.store).runOn s.trail).1,
        { s with trail := ((e.eval env s.store).runOn s.trail).2 }) := rfl

/-! ## Properties of the store that a computation keeps -/

/-- A computation keeps a property of the store, whether it ends well or in a fault. -/
def Preserves (P : Store → Prop) (m : Exec σ α) : Prop :=
  ∀ s : Stage σ, P s.store → P (m.runOn s).2.store

variable {P : Store → Prop}

theorem Preserves.pure (a : α) : Preserves P (pure a : Exec σ α) := fun _ hs => hs

theorem Preserves.bind {m : Exec σ α} {k : α → Exec σ β} (hm : Preserves P m)
    (hk : ∀ a, Preserves P (k a)) : Preserves P (m >>= k) := by
  intro s
  refine Assessment.within_bind (R := fun s t : Stage σ => P s.store → P t.store) ?_ (hm s) ?_
  · exact fun h h' hs => h' (h hs)
  · exact fun a t _ => hk a t

theorem Preserves.update {f : Store → Except Fault Store} (hf : ∀ s t, f s = .ok t → P s → P t) :
    Preserves P (update f : Exec σ Unit) := by
  intro s hs
  cases h : f s.store with
  | error e =>
    rw [runOn_update_of_error h]
    exact hs
  | ok t =>
    rw [runOn_update_of_ok h]
    exact hf _ _ h hs

/-! ## Staying within a relation -/

variable (R : Stage σ → Stage σ → Prop)

/-- A chain stays within a transitive relation when both computations do. -/
theorem within_bind (ht : ∀ {s t u}, R s t → R t u → R s u) {m : Exec σ α} {k : α → Exec σ β}
    (hm : R s (m.runOn s).2)
    (hk : ∀ a t, m.runOn s = (.ok a, t) → R t ((k a).runOn t).2) :
    R s ((m >>= k).runOn s).2 :=
  Assessment.within_bind ht hm hk

/-- After a look at the store the stage is the same, and the look has succeeded. -/
theorem within_read_bind (hr : ∀ s, R s s) {f : Store → Except Fault α} {k : α → Exec σ β}
    (hk : ∀ a, f s.store = .ok a → R s ((k a).runOn s).2) :
    R s ((read f >>= k).runOn s).2 := by
  have hread := runOn_read f s
  cases h : f s.store with
  | error e =>
    rw [h] at hread
    rw [runOn_bind_of_error hread]
    exact hr s
  | ok a =>
    rw [h] at hread
    rw [runOn_bind_of_ok hread]
    exact hk a h

theorem within_update_bind (hr : ∀ s, R s s) {f : Store → Except Fault Store} {b : β}
    (hk : ∀ t, f s.store = .ok t → R s { s with store := t }) :
    R s ((update f >>= fun _ => (pure b : Exec σ β)).runOn s).2 := by
  cases h : f s.store with
  | error e =>
    rw [runOn_bind_of_error (runOn_update_of_error h)]
    exact hr s
  | ok t =>
    rw [runOn_bind_of_ok (runOn_update_of_ok h)]
    exact hk t h

end Exec

end Assessment
