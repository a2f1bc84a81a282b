import Assessment.Proofs.Program.Nesting
import Assessment.Proofs.Program.Reachable

/-!
# What a fault leaves

A single statement writes last, after everything that may end it in a fault. So a fault leaves the
store as the statement found it, and a run of statements that ends in a fault leaves what the
statements completed before it have written, one after the other.

The code is `execute_statement` and `execute_statements`: a run stops at the first error, and
nothing is rolled back. Only the making of template variants restores a store.

* `Exec.Atomic`: a computation that ends in a fault leaves the store as it was.
* `Statement.completionsOfAll`: the single statements that complete in a run, with the stages before
  and after each.
* `recorded_executeAll`: what these write takes the store of a run to the one it ends with.
* `failsIn_executeAll`: a run that ends in a fault does so at a statement in some place.
* `store_of_fault`: what is left after a fault.
-/

namespace Assessment

variable {σ α β : Type} {env : Environment σ} {phase : Phase}

/-! ## Computations that write last -/

namespace Exec

variable {s u : Stage σ} {m : Exec σ α} {k : α → Exec σ β} {e : Fault}

/-- A computation leaves the store as it is, whatever it ends with. -/
def Looks (m : Exec σ α) : Prop := ∀ s, (m.runOn s).2.store = s.store

/-- **A computation that ends in a fault leaves the store as it was.** -/
def Atomic (m : Exec σ α) : Prop := ∀ s e u, m.runOn s = (.error e, u) → u.store = s.store

theorem Looks.read (f : Store → Except Fault α) : Looks (read f : Exec σ α) := fun _ => rfl

theorem Looks.eval (e : Expr) : Looks (eval env e) := fun _ => rfl

theorem Looks.store_eq (hm : Looks m) {r : Except Fault α} (h : m.runOn s = (r, u)) :
    u.store = s.store := by
  rw [← hm s, h]

theorem Looks.bind (hm : Looks m) (hk : ∀ a, Looks (k a)) : Looks (m >>= k) := by
  intro s
  rcases h : m.runOn s with ⟨r, t⟩
  cases r with
  | error e => rw [runOn_bind_of_error h, hm.store_eq h]
  | ok a => rw [runOn_bind_of_ok h, hk a t, hm.store_eq h]

theorem Looks.holds (test : Expr) : Looks (holds env test) := .bind (.eval test) fun _ => .read _

theorem Atomic.pure (a : α) : Atomic (pure a : Exec σ α) := fun _ _ _ h => by cases h

theorem Atomic.look_bind (hm : Looks m) (hk : ∀ a, Atomic (k a)) : Atomic (m >>= k) := by
  intro s e u h
  rcases runOn_bind_eq_error_iff.1 h with h | ⟨a, t, ha, h⟩
  · exact hm.store_eq h
  · rw [hk a t e u h, hm.store_eq ha]

theorem Atomic.update (f : Store → Except Fault Store) : Atomic (update f : Exec σ Unit) := by
  intro s e u h
  cases hf : f s.store with
  | ok t =>
    rw [runOn_update_of_ok hf] at h
    cases h
  | error e' =>
    rw [runOn_update_of_error hf] at h
    cases h
    rfl

theorem Atomic.bind_pure (hm : Atomic m) (g : α → β) : Atomic (m >>= fun a => Pure.pure (g a)) := by
  intro s e u h
  rcases runOn_bind_eq_error_iff.1 h with h | ⟨a, t, -, h⟩
  · exact hm s e u h
  · cases h

end Exec

open Exec

/-- A statement without statements in it. -/
def Statement.isSingle : Statement → Bool
  | .condition .. | .fragment _ => false
  | _ => true

/-- **A single statement that ends in a fault leaves the store as it was.** -/
theorem atomic_execute {a : Statement} (ha : a.isSingle = true) :
    Atomic (execute env phase a) := by
  cases a with
  | condition | fragment => cases ha
  | assign kind id e =>
    rw [execute]
    exact .look_bind (.read _) fun _ => .look_bind (.read _) fun _ => .look_bind (.eval e) fun _ =>
      .bind_pure (.update _) _
  | setCorrect id e =>
    rw [execute]
    exact .look_bind (.read _) fun _ => .look_bind (.read _) fun _ => .look_bind (.eval e) fun _ =>
      .bind_pure (.update _) _
  | setDefault id e =>
    rw [execute]
    exact .look_bind (.read _) fun _ => .look_bind (.eval e) fun _ => .bind_pure (.update _) _
  | reset id =>
    rw [execute]
    exact .look_bind (.read _) fun _ => .bind_pure (.update _) _
  | lookupOutcome id e =>
    rw [execute]
    exact .look_bind (.eval e) fun _ => .look_bind (.read _) fun _ => .bind_pure (.update _) _
  | constraint test =>
    rw [execute]
    exact .look_bind (.read _) fun _ => .look_bind (.holds test) fun _ => .pure _
  | exit target =>
    rw [execute]
    exact .pure _

/-! ## The statements that complete -/

/-- A single statement that has completed, with the stages before and after it. -/
structure Completion (σ : Type) where
  statement : Statement
  before : Stage σ
  after : Stage σ

/-- What completes after a computation: nothing when it ends in a fault. -/
def Exec.followed (m : Exec σ α) (s : Stage σ) (f : α → Stage σ → List (Completion σ)) :
    List (Completion σ) :=
  match m.runOn s with
  | (.ok a, t) => f a t
  | (.error _, _) => []

mutual

/-- The single statements that complete in a run of a statement, in order. -/
def Statement.completions (env : Environment σ) (phase : Phase) :
    Statement → Stage σ → List (Completion σ)
  | .condition first others otherwise, s =>
    first.completions env phase s ++ (executeBranch env phase first).followed s fun r t =>
      match r with
      | some _ => []
      | none =>
        Branch.completionsOfAll env phase others t ++
          (executeBranches env phase others).followed t fun r u =>
            match r with
            | some _ => []
            | none => Statement.completionsOfAll env phase otherwise u
  | .fragment body, s => Statement.completionsOfAll env phase body s
  | a, s => (execute env phase a).followed s fun _ t => [⟨a, s, t⟩]

/-- The single statements that complete in a run of statements, in order. -/
def Statement.completionsOfAll (env : Environment σ) (phase : Phase) :
    List Statement → Stage σ → List (Completion σ)
  | [], _ => []
  | a :: rest, s =>
    a.completions env phase s ++ (execute env phase a).followed s fun r t =>
      match r with
      | .proceed => Statement.completionsOfAll env phase rest t
      | _ => []

/-- The single statements that complete in a run of a branch. -/
def Branch.completions (env : Environment σ) (phase : Phase) :
    Branch → Stage σ → List (Completion σ)
  | .mk test body, s =>
    (holds env test).followed s fun r t =>
      if r then Statement.completionsOfAll env phase body t else []

/-- The single statements that complete in a run of branches. -/
def Branch.completionsOfAll (env : Environment σ) (phase : Phase) :
    List Branch → Stage σ → List (Completion σ)
  | [], _ => []
  | b :: rest, s =>
    b.completions env phase s ++ (executeBranch env phase b).followed s fun r t =>
      match r with
      | some _ => []
      | none => Branch.completionsOfAll env phase rest t

end

/-! ## What they write -/

/-- Statements that complete one after the other, each on the store that the one before it left. -/
inductive Chain (env : Environment σ) (phase : Phase) : Store → List (Completion σ) → Store → Prop
  | nil (s : Store) : Chain env phase s [] s
  | cons {c : Completion σ} {signal : Signal} {l : List (Completion σ)} {t : Store} :
      c.statement.isSingle = true →
      (execute env phase c.statement).runOn c.before = (.ok signal, c.after) →
      Chain env phase c.after.store l t → Chain env phase c.before.store (c :: l) t

/-- Of the parts of a run some complete, in order, and take one store to another. -/
structure Recorded (env : Environment σ) (phase : Phase) (parts : List Statement) (s : Store)
    (l : List (Completion σ)) (t : Store) : Prop where
  chain : Chain env phase s l t
  inOrder : (l.map (·.statement)).Sublist parts

theorem Chain.append {s t u : Store} {l m : List (Completion σ)} (h : Chain env phase s l t)
    (h' : Chain env phase t m u) : Chain env phase s (l ++ m) u := by
  induction h with
  | nil => exact h'
  | cons hc hr _ ih => exact .cons hc hr (ih h')

namespace Recorded

variable {p q : List Statement} {l : List (Completion σ)} {s : Stage σ} {m : Exec σ α}
  {k : α → Exec σ β} {f : α → Stage σ → List (Completion σ)}

theorem nil (p : List Statement) (s : Store) : Recorded env phase p s [] s :=
  ⟨.nil s, List.nil_sublist p⟩

/-- What a chain of computations records. -/
theorem bind (hm : Recorded env phase p s.store l (m.runOn s).2.store)
    (hk : ∀ a t, Recorded env phase q t.store (f a t) ((k a).runOn t).2.store) :
    Recorded env phase (p ++ q) s.store (l ++ m.followed s f) ((m >>= k).runOn s).2.store := by
  rw [Exec.followed]
  rcases h : m.runOn s with ⟨r, t⟩
  rw [h] at hm
  cases r with
  | error e =>
    rw [runOn_bind_of_error h, List.append_nil]
    exact ⟨hm.chain, hm.inOrder.trans (List.sublist_append_left p q)⟩
  | ok a =>
    rw [runOn_bind_of_ok h]
    refine ⟨hm.chain.append (hk a t).chain, ?_⟩
    rw [List.map_append]
    exact hm.inOrder.append (hk a t).inOrder

theorem look_bind (hm : Looks m)
    (hk : ∀ a t, Recorded env phase q t.store (f a t) ((k a).runOn t).2.store) :
    Recorded env phase q s.store (m.followed s f) ((m >>= k).runOn s).2.store := by
  have hlook : Recorded env phase [] s.store [] (m.runOn s).2.store := by
    rw [hm s]
    exact nil [] _
  exact hlook.bind hk

theorem single {a : Statement} (ha : a.isSingle = true) (s : Stage σ) :
    Recorded env phase [a] s.store ((execute env phase a).followed s fun _ t => [⟨a, s, t⟩])
      ((execute env phase a).runOn s).2.store := by
  rw [Exec.followed]
  rcases h : (execute env phase a).runOn s with ⟨r, t⟩
  cases r with
  | error e =>
    rw [atomic_execute ha s e t h]
    exact nil _ _
  | ok signal => exact ⟨.cons (c := ⟨a, s, t⟩) ha h (.nil _), List.Sublist.refl _⟩

end Recorded

mutual

theorem recorded_execute : ∀ (a : Statement) (s : Stage σ),
    Recorded env phase a.parts s.store (a.completions env phase s)
      ((execute env phase a).runOn s).2.store
  | .condition first others otherwise, s => by
    -- Branches are gone through as they run: the first, the others, and what comes after them.
    rw [Statement.parts, Statement.completions, execute, List.append_assoc]
    refine (recorded_executeBranch first s).bind fun r t => ?_
    cases r with
    | some signal => exact .nil _ _
    | none =>
      refine (recorded_executeBranches others t).bind fun r u => ?_
      cases r with
      | some signal => exact .nil _ _
      | none => exact recorded_executeAll otherwise u
  | .fragment body, s => by
    rw [Statement.parts, Statement.completions, execute]
    exact recorded_executeAll body s
  | .assign .., s | .setCorrect .., s | .setDefault .., s | .reset _, s | .lookupOutcome .., s
  | .constraint _, s | .exit _, s => .single rfl s

/-- **What statements record in a run** takes the store to the one that the run ends with, whether
in a signal or in a fault. -/
theorem recorded_executeAll : ∀ (l : List Statement) (s : Stage σ),
    Recorded env phase (Statement.partsOfAll l) s.store (Statement.completionsOfAll env phase l s)
      ((executeAll env phase l).runOn s).2.store
  | [], s => .nil _ _
  | a :: rest, s => by
    rw [Statement.partsOfAll, Statement.completionsOfAll, executeAll]
    refine (recorded_execute a s).bind fun r t => ?_
    cases r with
    | proceed => exact recorded_executeAll rest t
    | exit target => exact .nil _ _
    | constraintFailed => exact .nil _ _

theorem recorded_executeBranch : ∀ (b : Branch) (s : Stage σ),
    Recorded env phase b.parts s.store (b.completions env phase s)
      ((executeBranch env phase b).runOn s).2.store
  | .mk test body, s => by
    rw [Branch.parts, Branch.completions, executeBranch]
    refine .look_bind (.holds test) fun r t => ?_
    cases r with
    | false => exact .nil _ _
    | true =>
      rw [if_pos rfl, if_pos rfl, runOn_bind_pure_snd]
      exact recorded_executeAll body t

theorem recorded_executeBranches : ∀ (l : List Branch) (s : Stage σ),
    Recorded env phase (Branch.partsOfAll l) s.store (Branch.completionsOfAll env phase l s)
      ((executeBranches env phase l).runOn s).2.store
  | [], s => .nil _ _
  | b :: rest, s => by
    rw [Branch.partsOfAll, Branch.completionsOfAll, executeBranches]
    refine (recorded_executeBranch b s).bind fun r t => ?_
    cases r with
    | some signal => exact .nil _ _
    | none => exact recorded_executeBranches rest t

end

/-! ## Where a run fails -/

namespace Nest

/-- A place with more statements before it and after it. -/
def within (before after : List Statement) : Nest → Nest
  | here b a => here (before ++ b) (a ++ after)
  | fragment b inner a => fragment (before ++ b) inner (a ++ after)
  | branch b earlier test inner later otherwise a =>
    branch (before ++ b) earlier test inner later otherwise (a ++ after)
  | fallback b first others inner a => fallback (before ++ b) first others inner (a ++ after)

theorem fill_within (before after l : List Statement) (c : Nest) :
    (c.within before after).fill l = before ++ (c.fill l ++ after) := by
  cases c <;> simp [within, fill]

theorem Reaches.within {c : Nest} {before : List Statement} {s t u : Stage σ}
    (hb : (executeAll env phase before).runOn s = (.ok .proceed, t))
    (hc : c.Reaches env phase t u) (after : List Statement) :
    (c.within before after).Reaches env phase s u := by
  have happend {b : List Statement} {v : Stage σ}
      (h : (executeAll env phase b).runOn t = (.ok .proceed, v)) :
      (executeAll env phase (before ++ b)).runOn s = (.ok .proceed, v) :=
    (runOn_executeAll_append hb).trans h
  cases c with
  | here b a => exact happend hc
  | fragment b inner a =>
    obtain ⟨v, h, hc⟩ := hc
    exact ⟨v, happend h, hc⟩
  | branch b earlier test inner later otherwise a =>
    obtain ⟨v, w, x, h, hc⟩ := hc
    exact ⟨v, w, x, happend h, hc⟩
  | fallback b first others inner a =>
    obtain ⟨v, w, h, hc⟩ := hc
    exact ⟨v, w, happend h, hc⟩

end Nest

/-- A statement ends in a fault that is none of a statement in it: it is single, or no branch before
one is taken and the test of that one fails. -/
inductive FailsAt (env : Environment σ) (phase : Phase) (e : Fault) (u : Stage σ) :
    Statement → Stage σ → Prop
  | single {a : Statement} {v : Stage σ} :
      a.isSingle = true → (execute env phase a).runOn v = (.error e, u) → FailsAt env phase e u a v
  | test {earlier later : List Branch} {test : Expr} {body otherwise : List Statement}
      {v w : Stage σ} :
      (executeBranches env phase earlier).runOn v = (.ok none, w) →
      (holds env test).runOn w = (.error e, u) →
      FailsAt env phase e u (conditionWith earlier (.mk test body) later otherwise) v

/-- A run of statements fails at one of them or in one of them. -/
def FailsIn (env : Environment σ) (phase : Phase) (l : List Statement) (s : Stage σ) (e : Fault)
    (u : Stage σ) : Prop :=
  ∃ (c : Nest) (a : Statement) (v : Stage σ),
    l = c.fill [a] ∧ c.Reaches env phase s v ∧ FailsAt env phase e u a v

/-- A run of branches fails in a test or in the statements of the branch that is taken. -/
def FailsInBranches (env : Environment σ) (phase : Phase) (l : List Branch) (s : Stage σ)
    (e : Fault) (u : Stage σ) : Prop :=
  ∃ earlier test body later w,
    l = earlier ++ .mk test body :: later ∧
      (executeBranches env phase earlier).runOn s = (.ok none, w) ∧
      ((holds env test).runOn w = (.error e, u) ∨
        ∃ x, (holds env test).runOn w = (.ok true, x) ∧ FailsIn env phase body x e u)

variable {a : Statement} {b : Branch} {l : List Statement} {bs : List Branch} {e : Fault}
  {s t u : Stage σ}

/-- Branches of which none is taken leave the store: only their tests are evaluated. -/
theorem store_of_executeBranches_none :
    ∀ {bs : List Branch} {s t : Stage σ},
      (executeBranches env phase bs).runOn s = (.ok none, t) → t.store = s.store
  | [], _, _, h => by
    cases h
    rfl
  | .mk test body :: rest, s, t, h => by
    rw [executeBranches, runOn_bind_eq_ok_iff] at h
    obtain ⟨r, v, hr, h⟩ := h
    cases r with
    | some signal => cases h
    | none =>
      rw [store_of_executeBranches_none h]
      rw [executeBranch, runOn_bind_eq_ok_iff] at hr
      obtain ⟨taken, w, htest, hr⟩ := hr
      cases taken with
      | true =>
        obtain ⟨_, _, _, hr⟩ := runOn_bind_eq_ok_iff.1 hr
        cases hr
      | false =>
        cases hr
        exact (Looks.holds test).store_eq htest

theorem FailsAt.store_eq {v : Stage σ} (h : FailsAt env phase e u a v) : u.store = v.store := by
  cases h with
  | single ha h => exact atomic_execute ha _ _ _ h
  | test hearlier h =>
    rw [← store_of_executeBranches_none hearlier, (Looks.holds _).store_eq h]

theorem FailsIn.within {before : List Statement}
    (hb : (executeAll env phase before).runOn s = (.ok .proceed, t))
    (h : FailsIn env phase l t e u) (after : List Statement) :
    FailsIn env phase (before ++ (l ++ after)) s e u := by
  obtain ⟨c, a, v, rfl, hc, ha⟩ := h
  exact ⟨c.within before after, a, v, (c.fill_within before after [a]).symm, hc.within hb after, ha⟩

theorem FailsAt.failsIn (h : FailsAt env phase e u a s) : FailsIn env phase [a] s e u :=
  ⟨.here [] [], a, s, rfl, rfl, h⟩

/-- A condition of which a branch fails. -/
theorem FailsInBranches.failsIn {first : Branch} {others : List Branch}
    (h : FailsInBranches env phase (first :: others) s e u) (otherwise : List Statement) :
    FailsIn env phase [.condition first others otherwise] s e u := by
  obtain ⟨earlier, test, body, later, w, hl, hearlier, h⟩ := h
  have hcondition : Statement.condition first others otherwise =
      conditionWith earlier (.mk test body) later otherwise := by
    cases earlier with
    | nil =>
      cases hl
      rfl
    | cons =>
      cases hl
      rfl
  rw [hcondition]
  rcases h with h | ⟨x, htest, c, a, v, rfl, hc, ha⟩
  · exact FailsAt.failsIn (.test hearlier h)
  · exact ⟨.branch [] earlier test c later otherwise [], a, v, rfl,
      ⟨s, w, x, rfl, hearlier, htest, hc⟩, ha⟩

theorem FailsInBranches.cons
    (hb : (executeBranch env phase b).runOn s = (.ok none, t))
    (h : FailsInBranches env phase bs t e u) : FailsInBranches env phase (b :: bs) s e u := by
  obtain ⟨earlier, test, body, later, w, rfl, hearlier, h⟩ := h
  refine ⟨b :: earlier, test, body, later, w, rfl, ?_, h⟩
  rw [executeBranches, runOn_bind_of_ok hb]
  exact hearlier

mutual

theorem failsIn_execute : ∀ {a : Statement} {s : Stage σ},
    (execute env phase a).runOn s = (.error e, u) → FailsIn env phase [a] s e u
  | .condition first others otherwise, s, h => by
    rw [execute, runOn_bind_eq_error_iff] at h
    rcases h with h | ⟨r, t, hfirst, h⟩
    · exact (failsIn_executeBranch h others).failsIn otherwise
    cases r with
    | some signal => cases h
    | none =>
      rcases runOn_bind_eq_error_iff.1 h with h | ⟨r, v, hothers, h⟩
      · exact ((failsIn_executeBranches h).cons hfirst).failsIn otherwise
      cases r with
      | some signal => cases h
      | none =>
        obtain ⟨c, a, w, rfl, hc, ha⟩ := failsIn_executeAll h
        refine ⟨.fallback [] first others c [], a, w, rfl, ⟨s, v, rfl, ?_, hc⟩, ha⟩
        rw [executeBranches, runOn_bind_of_ok hfirst]
        exact hothers
  | .fragment body, s, h => by
    rw [execute] at h
    obtain ⟨c, a, v, rfl, hc, ha⟩ := failsIn_executeAll h
    exact ⟨.fragment [] c [], a, v, rfl, ⟨s, rfl, hc⟩, ha⟩
  | .assign .., s, h | .setCorrect .., s, h | .setDefault .., s, h | .reset _, s, h
  | .lookupOutcome .., s, h | .constraint _, s, h | .exit _, s, h => (FailsAt.single rfl h).failsIn

/-- **A run that ends in a fault does so at a statement in some place.** -/
theorem failsIn_executeAll : ∀ {l : List Statement} {s : Stage σ},
    (executeAll env phase l).runOn s = (.error e, u) → FailsIn env phase l s e u
  | [], s, h => by cases h
  | a :: rest, s, h => by
    rw [executeAll_cons, runOn_bind_eq_error_iff] at h
    rcases h with h | ⟨r, t, ha, h⟩
    · have hnothing : (executeAll env phase []).runOn s = (.ok .proceed, s) := rfl
      exact (failsIn_execute h).within hnothing rest
    cases r with
    | proceed =>
      -- The place in the rest is one in the whole list, with the first statement before it.
      have hproceed : (executeAll env phase [a]).runOn s = (.ok .proceed, t) := by
        rw [executeAll_singleton]
        exact ha
      have hrest := (failsIn_executeAll h).within hproceed []
      rwa [List.append_nil] at hrest
    | exit target => cases h
    | constraintFailed => cases h

theorem failsIn_executeBranch : ∀ {b : Branch} {s : Stage σ},
    (executeBranch env phase b).runOn s = (.error e, u) →
      ∀ later, FailsInBranches env phase (b :: later) s e u
  | .mk test body, s, h, later => by
    refine ⟨[], test, body, later, s, rfl, rfl, ?_⟩
    rw [executeBranch, runOn_bind_eq_error_iff] at h
    rcases h with h | ⟨r, t, htest, h⟩
    · exact .inl h
    cases r with
    | false => cases h
    | true =>
      rcases runOn_bind_eq_error_iff.1 h with h | ⟨r, v, -, h⟩
      · exact .inr ⟨t, htest, failsIn_executeAll h⟩
      · cases h

theorem failsIn_executeBranches : ∀ {bs : List Branch} {s : Stage σ},
    (executeBranches env phase bs).runOn s = (.error e, u) → FailsInBranches env phase bs s e u
  | [], s, h => by cases h
  | b :: rest, s, h => by
    rw [executeBranches, runOn_bind_eq_error_iff] at h
    rcases h with h | ⟨r, t, hb, h⟩
    · exact failsIn_executeBranch h rest
    cases r with
    | some signal => cases h
    | none => exact (failsIn_executeBranches h).cons hb

end

/-! ## What is left -/

/-- The operations that write to one variable. -/
theorem Operation.atomic_run {id : String} {v : Value} {o : Operation σ}
    (ho : o ∈ [.setValue id v, .setCorrect id v, .setDefault id v, .resetToDefault id]) :
    Atomic o.run := by
  simp only [List.mem_cons, List.not_mem_nil, or_false] at ho
  rcases ho with rfl | rfl | rfl | rfl
  · exact .update fun s => s.setValue id v
  · exact .update fun s => s.setCorrect id v
  · exact .update fun s => s.setDefault id v
  · exact .update fun s => s.resetToDefault id

/-- **What a fault leaves.** A single statement that ends in a fault leaves the store as it was, and
so do the operations that write to one variable. A run of statements that ends in a fault fails at
a single statement or at a test, in some place of the program, and leaves the store as it was when
it got there: what the single statements completed by then have written, in order. -/
theorem store_of_fault (env : Environment σ) (phase : Phase) :
    (∀ a : Statement, a.isSingle = true → ∀ s e u,
      (execute env phase a).runOn s = (.error e, u) → u.store = s.store) ∧
    (∀ l s e u, (executeAll env phase l).runOn s = (.error e, u) →
      (∃ c a v, l = Nest.fill c [a] ∧ c.Reaches env phase s v ∧ FailsAt env phase e u a v ∧
        u.store = v.store) ∧
      Chain env phase s.store (Statement.completionsOfAll env phase l s) u.store ∧
      ((Statement.completionsOfAll env phase l s).map (·.statement)).Sublist
        (Statement.partsOfAll l)) ∧
    ∀ (id : String) (v : Value) (o : Operation σ),
      o ∈ [.setValue id v, .setCorrect id v, .setDefault id v, .resetToDefault id] →
        ∀ s e u, o.run.runOn s = (.error e, u) → u.store = s.store := by
  refine ⟨fun a ha => atomic_execute ha, fun l s e u h => ?_, fun id v o ho => ?_⟩
  · have hrecorded : Recorded env phase _ _ _ _ := recorded_executeAll l s
    rw [h] at hrecorded
    obtain ⟨c, a, v, hl, hc, ha⟩ := failsIn_executeAll h
    exact ⟨⟨c, a, v, hl, hc, ha, ha.store_eq⟩, hrecorded.chain, hrecorded.inOrder⟩
  · exact Operation.atomic_run ho

/-- A status is given, and a reset in a fragment asks for a variable that is not there. -/
def statusThenTotal : List Statement :=
  [.assign .outcome "completionStatus" (.literal (.identifier "completed")),
    .fragment [.reset "TOTAL"], .reset "completionStatus"]

/-- The fault leaves the status that was given before it, by the one statement that completed. -/
theorem statusThenTotal_leaves :
    ∃ u : Stage RandomSource.Script,
      (executeAll .replay .response statusThenTotal).runOn ⟨.builtins, .start ⟨[], []⟩⟩ =
        (.error (undeclared "TOTAL"), u) ∧
      (∃ c a v, statusThenTotal = Nest.fill c [a] ∧
        c.Reaches .replay .response ⟨.builtins, .start ⟨[], []⟩⟩ v ∧
        FailsAt .replay .response (undeclared "TOTAL") u a v ∧ u.store = v.store) ∧
      Chain .replay .response .builtins
        (Statement.completionsOfAll .replay .response statusThenTotal
          ⟨.builtins, .start ⟨[], []⟩⟩) u.store ∧
      (Statement.completionsOfAll .replay .response statusThenTotal
          ⟨.builtins, .start ⟨[], []⟩⟩).map (·.statement) = statusThenTotal.take 1 ∧
      u.store.value "completionStatus" = .ok (.single (.identifier "completed")) := by
  have hfails : (executeAll .replay .response statusThenTotal).runOn
      ⟨.builtins, .start ⟨[], []⟩⟩ = (.error (undeclared "TOTAL"), _) := rfl
  obtain ⟨hplace, hchain, -⟩ := (store_of_fault .replay .response).2.1 _ _ _ _ hfails
  exact ⟨_, hfails, hplace, hchain, rfl, rfl⟩

end Assessment
