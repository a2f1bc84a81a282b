import Assessment.Expr.Eval
import Assessment.Proofs.Result

/-!
# Computations on a trail

What a computation gives on a trail when it is a result alone, a chain of two, or the values of
several expressions.

Evaluations are written as chains (`eval_pair`, `eval_all`), where an error ends the chain at once
and the source and the diagnostics stay as they are then. The lemmas here take such chains apart, so
that no later proof unfolds one.

* `Eval.runOn_bind_eq_ok_iff`: a chain ends well exactly when both computations do.
* `Expr.runOn_evalAll_pair_iff`: two expressions have values exactly when the first has one, and the
  second has one on the trail that the first leaves.
* `Eval.Ensures`: what the values of a computation have on every trail.
-/

namespace Assessment

variable {σ α β : Type}

namespace Eval

variable {t u : Trail σ}

theorem runOn_pure (a : α) (t : Trail σ) : (pure a : Eval σ α).runOn t = (.ok a, t) := rfl

theorem runOn_ofExcept (r : Except Fault α) (t : Trail σ) :
    (ofExcept r : Eval σ α).runOn t = (r, t) := rfl

theorem runOn_bind_of_ok {m : Eval σ α} {k : α → Eval σ β} {a : α}
    (h : m.runOn t = (.ok a, u)) : (m >>= k).runOn t = (k a).runOn u :=
  bind_apply_of_ok h

theorem runOn_bind_eq_ok_iff {m : Eval σ α} {k : α → Eval σ β} {b : β} :
    (m >>= k).runOn t = (.ok b, u) ↔
      ∃ a v, m.runOn t = (.ok a, v) ∧ (k a).runOn v = (.ok b, u) :=
  bind_apply_eq_ok_iff

/-! ## What values have -/

/-- What a computation gives has a property, on every trail. -/
def Ensures (P : α → Prop) (m : Eval σ α) : Prop :=
  ∀ t, Assessment.Ensures P (m.runOn t).1

namespace Ensures

variable {P : α → Prop} {Q : β → Prop} {m : Eval σ α} {k : α → Eval σ β}

theorem pure {a : α} (h : P a) : Ensures P (pure a : Eval σ α) := fun _ => .ok h

theorem ofExcept {r : Except Fault α} (h : Assessment.Ensures P r) :
    Ensures P (Eval.ofExcept r : Eval σ α) := fun _ => h

theorem bind (hm : Ensures P m) (hk : ∀ a, P a → Ensures Q (k a)) : Ensures Q (m >>= k) := by
  intro t b h
  rcases hr : (m >>= k).runOn t with ⟨r, u⟩
  rw [hr] at h
  cases h
  obtain ⟨a, v, ha, hb⟩ := runOn_bind_eq_ok_iff.1 hr
  have hP : P a := hm t a (by rw [ha])
  exact hk a hP v b (by rw [hb])

/-- A chain gives what its second computation gives, whatever the first one is. -/
theorem bind_right (hk : ∀ a, Ensures Q (k a)) : Ensures Q (m >>= k) :=
  bind (P := fun _ => True) (fun _ _ _ => trivial) fun a _ => hk a

end Ensures

end Eval

/-! ## The values of several expressions -/

namespace Expr

open Eval

variable {env : Environment σ} {store : Store} {t u : Trail σ} {a b : Expr} {vs : List Value}

theorem runOn_evalAll_nil_iff :
    (evalAll env store []).runOn t = (.ok vs, u) ↔ vs = [] ∧ u = t := by
  rw [evalAll, runOn_pure]
  constructor
  · intro h
    cases h
    exact ⟨rfl, rfl⟩
  · rintro ⟨rfl, rfl⟩
    rfl

theorem runOn_evalAll_cons_iff {l : List Expr} :
    (evalAll env store (a :: l)).runOn t = (.ok vs, u) ↔
      ∃ v w ws, (a.eval env store).runOn t = (.ok v, w) ∧
        (evalAll env store l).runOn w = (.ok ws, u) ∧ vs = v :: ws := by
  rw [evalAll, runOn_bind_eq_ok_iff]
  constructor
  · rintro ⟨v, w, hv, h⟩
    obtain ⟨ws, w', hws, h⟩ := runOn_bind_eq_ok_iff.1 h
    cases h
    exact ⟨v, w, ws, hv, hws, rfl⟩
  · rintro ⟨v, w, ws, hv, hws, rfl⟩
    exact ⟨v, w, hv, runOn_bind_eq_ok_iff.2 ⟨ws, u, hws, rfl⟩⟩

theorem runOn_evalAll_singleton_iff :
    (evalAll env store [a]).runOn t = (.ok vs, u) ↔
      ∃ v, (a.eval env store).runOn t = (.ok v, u) ∧ vs = [v] := by
  rw [runOn_evalAll_cons_iff]
  constructor
  · rintro ⟨v, w, ws, hv, hws, rfl⟩
    obtain ⟨rfl, rfl⟩ := runOn_evalAll_nil_iff.1 hws
    exact ⟨v, hv, rfl⟩
  · rintro ⟨v, hv, rfl⟩
    exact ⟨v, u, [], hv, runOn_evalAll_nil_iff.2 ⟨rfl, rfl⟩, rfl⟩

theorem runOn_evalAll_pair_iff :
    (evalAll env store [a, b]).runOn t = (.ok vs, u) ↔
      ∃ v w v', (a.eval env store).runOn t = (.ok v, w) ∧
        (b.eval env store).runOn w = (.ok v', u) ∧ vs = [v, v'] := by
  rw [runOn_evalAll_cons_iff]
  constructor
  · rintro ⟨v, w, ws, hv, hws, rfl⟩
    obtain ⟨v', hv', rfl⟩ := runOn_evalAll_singleton_iff.1 hws
    exact ⟨v, w, v', hv, hv', rfl⟩
  · rintro ⟨v, w, v', hv, hv', rfl⟩
    exact ⟨v, w, [v'], hv, runOn_evalAll_singleton_iff.2 ⟨v', hv', rfl⟩, rfl⟩

end Expr

end Assessment
