/-!
# Results that may be faults

What a chain of results, or a result changed at its end, has to say when it is no fault; and chains
of computations with a state, which is there after a fault too.

Every function of the processor that can fail gives a result and leaves its state behind. These
lemmas are about such results alone, so that the proofs about the functions follow their steps.

* `bind_eq_ok_iff`: a chain ends well exactly when both results do.
* `Ensures`: a result has a property when it is no fault, with one lemma for each way to build one.
* `within_bind`: a chain moves its state within a transitive relation.
* `InStep`: two computations on related states give the same result and leave related states.
-/

namespace Assessment

variable {ε α β : Type}

/-- A chain of two results ends well exactly when both of them do. -/
theorem bind_eq_ok_iff {x : Except ε α} {f : α → Except ε β} {b : β} :
    (x >>= f) = .ok b ↔ ∃ a, x = .ok a ∧ f a = .ok b := by
  cases x with
  | error e =>
    constructor
    · intro h
      cases h
    · rintro ⟨_, h, _⟩
      cases h
  | ok a =>
    constructor
    · intro h
      exact ⟨a, rfl, h⟩
    · rintro ⟨_, h, h'⟩
      cases h
      exact h'

theorem map_eq_ok_iff {x : Except ε α} {f : α → β} {b : β} :
    x.map f = .ok b ↔ ∃ a, x = .ok a ∧ f a = b := by
  cases x with
  | error e =>
    constructor
    · intro h
      cases h
    · rintro ⟨_, h, _⟩
      cases h
  | ok a =>
    constructor
    · intro h
      cases h
      exact ⟨a, rfl, rfl⟩
    · rintro ⟨_, h, h'⟩
      cases h
      exact congrArg _ h'

theorem map_eq_error_iff {x : Except ε α} {f : α → β} {e : ε} :
    x.map f = .error e ↔ x = .error e := by
  cases x with
  | error e' =>
    constructor <;>
      · intro h
        cases h
        rfl
  | ok a => constructor <;> intro h <;> cases h

/-! ## What results have -/

/-- A result has a property when it is no fault. -/
def Ensures (P : α → Prop) (r : Except ε α) : Prop := ∀ a, r = .ok a → P a

namespace Ensures

variable {P : α → Prop} {Q : β → Prop} {x : Except ε α} {f : α → Except ε β}

theorem ok {a : α} (h : P a) : Ensures P (.ok a : Except ε α) := by
  rintro _ ⟨⟩
  exact h

theorem error (e : ε) : Ensures P (.error e : Except ε α) := by
  rintro _ ⟨⟩

theorem bind (hx : Ensures P x) (hf : ∀ a, P a → Ensures Q (f a)) : Ensures Q (x >>= f) := by
  intro b h
  obtain ⟨a, ha, h⟩ := bind_eq_ok_iff.1 h
  exact hf a (hx a ha) b h

/-- A chain has what its second result has, whatever the first one is. -/
theorem bind_right (hf : ∀ a, Ensures Q (f a)) : Ensures Q (x >>= f) :=
  bind (P := fun _ => True) (fun _ _ => trivial) fun a _ => hf a

theorem map {g : α → β} (hx : Ensures P x) (hg : ∀ a, P a → Q (g a)) : Ensures Q (x.map g) := by
  intro b h
  obtain ⟨a, ha, rfl⟩ := map_eq_ok_iff.1 h
  exact hg a (hx a ha)

end Ensures

/-! ## Results with a state -/

section State

variable {S : Type} {m : ExceptT ε (StateM S) α} {k : α → ExceptT ε (StateM S) β} {s : S}

/-- A chain of two computations ends with the first when that is a fault. -/
theorem bind_apply (m : ExceptT ε (StateM S) α) (k : α → ExceptT ε (StateM S) β) (s : S) :
    (m >>= k : ExceptT ε (StateM S) β) s =
      match (m s : Except ε α × S) with
      | (.ok a, t) => k a t
      | (.error e, t) => (.error e, t) := by
  show (ExceptT.bind m k) s = _
  simp only [ExceptT.bind, ExceptT.mk, ExceptT.bindCont, bind, StateT.bind]
  rcases m s with ⟨r, t⟩
  cases r <;> rfl

theorem bind_apply_of_ok {a : α} {t : S} (h : m s = (.ok a, t)) :
    (m >>= k : ExceptT ε (StateM S) β) s = k a t := by
  rw [bind_apply, h]

theorem bind_apply_of_error {e : ε} {t : S} (h : m s = (.error e, t)) :
    (m >>= k : ExceptT ε (StateM S) β) s = (.error e, t) := by
  rw [bind_apply, h]

/-- A chain of two computations ends well exactly when both of them do. -/
theorem bind_apply_eq_ok_iff {b : β} {u : S} :
    (m >>= k : ExceptT ε (StateM S) β) s = (.ok b, u) ↔
      ∃ a t, m s = (.ok a, t) ∧ k a t = (.ok b, u) := by
  constructor
  · intro h
    rcases hm : (m s : Except ε α × S) with ⟨r, t⟩
    cases r with
    | error e =>
      rw [bind_apply_of_error hm] at h
      cases h
    | ok a =>
      rw [bind_apply_of_ok hm] at h
      exact ⟨a, t, rfl, h⟩
  · rintro ⟨a, t, hm, hk⟩
    rw [bind_apply_of_ok hm]
    exact hk

/-- A chain moves its state within a transitive relation when both computations do. -/
theorem within_bind {R : S → S → Prop} (ht : ∀ {s t u}, R s t → R t u → R s u)
    (hm : R s (m s).2) (hk : ∀ a t, m s = (.ok a, t) → R t (k a t).2) :
    R s ((m >>= k : ExceptT ε (StateM S) β) s).2 := by
  rcases h : (m s : Except ε α × S) with ⟨r, t⟩
  have hm : R s t := by
    have := hm
    rwa [h] at this
  cases r with
  | error e =>
    rw [bind_apply_of_error h]
    exact hm
  | ok a =>
    rw [bind_apply_of_ok h]
    exact ht hm (hk a t h)

/-- Two computations give the same result on related states and leave related states, whether they
end well or in a fault. -/
def InStep (R : S → S → Prop) (m m' : ExceptT ε (StateM S) α) : Prop :=
  ∀ s t, R s t → (m s : Except ε α × S).1 = (m' t : Except ε α × S).1 ∧ R (m s).2 (m' t).2

namespace InStep

variable {R : S → S → Prop}

theorem pure (a : α) : InStep R (pure a : ExceptT ε (StateM S) α) (Pure.pure a) :=
  fun _ _ h => ⟨rfl, h⟩

/-- Two chains go in step when their parts do. -/
theorem bind {m m' : ExceptT ε (StateM S) α} {k k' : α → ExceptT ε (StateM S) β}
    (hm : InStep R m m') (hk : ∀ a, InStep R (k a) (k' a)) :
    InStep R (m >>= k) (m' >>= k') := by
  intro s t h
  obtain ⟨hr, hst⟩ := hm s t h
  rcases hs : (m s : Except ε α × S) with ⟨r, u⟩
  rcases ht : (m' t : Except ε α × S) with ⟨r', u'⟩
  rw [hs, ht] at hr hst
  cases hr
  cases r with
  | error e =>
    rw [bind_apply_of_error hs, bind_apply_of_error ht]
    exact ⟨rfl, hst⟩
  | ok a =>
    rw [bind_apply_of_ok hs, bind_apply_of_ok ht]
    exact hk a u u' hst

end InStep

end State

end Assessment
