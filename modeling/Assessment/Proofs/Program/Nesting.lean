import Assessment.Proofs.Program.Exec

/-!
# Nested statements

A place in a program is a gap in one of its lists of statements, at any depth. Statements that run
the same run the same in every such place, so a fragment may be spliced into the list around it, and
an else-if may become a condition of its own. A signal other than `proceed` leaves all the lists
around it at once.

The code is `execute_statements` and `execute_condition`; responseProcessingFragment is the
fragment.

* `executeAll_append`: the statements after others run when these proceed.
* `Nest.executeAll_fill_congr`: statements that run the same do so in every place.
* `Program.run_nested`: splicing, nesting, and what a signal stops.
-/

namespace Assessment

variable {σ : Type} {env : Environment σ} {phase : Phase}

/-! ## Statements after others -/

/-- What comes after a run: the next one if it proceeds, and nothing else. -/
def Signal.andThen (next : Exec σ Signal) : Signal → Exec σ Signal
  | .proceed => next
  | signal => pure signal

theorem Signal.andThen_of_ne {signal : Signal} (h : signal ≠ .proceed) (next : Exec σ Signal) :
    signal.andThen next = pure signal := by
  cases signal
  · exact absurd rfl h
  · rfl
  · rfl

/-- What comes after branches: the next run if none of them was taken, and nothing else. -/
def orElse (next : Exec σ Signal) : Option Signal → Exec σ Signal
  | some signal => pure signal
  | none => next

theorem executeAll_cons (a : Statement) (rest : List Statement) :
    executeAll env phase (a :: rest) =
      execute env phase a >>= Signal.andThen (executeAll env phase rest) := by
  rw [executeAll]
  refine bind_congr fun r => ?_
  cases r <;> rfl

theorem execute_condition (first : Branch) (others : List Branch) (otherwise : List Statement) :
    execute env phase (.condition first others otherwise) =
      executeBranches env phase (first :: others) >>= orElse (executeAll env phase otherwise) := by
  rw [execute, executeBranches, bind_assoc]
  refine bind_congr fun r => ?_
  cases r with
  | none =>
    refine bind_congr fun r => ?_
    cases r <;> rfl
  | some signal =>
    rw [pure_bind]
    rfl

/-- The statements after others run when these proceed. -/
theorem executeAll_append (l m : List Statement) :
    executeAll env phase (l ++ m) =
      executeAll env phase l >>= Signal.andThen (executeAll env phase m) := by
  induction l with
  | nil =>
    rw [List.nil_append, executeAll, pure_bind]
    rfl
  | cons a rest ih =>
    rw [List.cons_append, executeAll_cons, executeAll_cons, bind_assoc]
    refine bind_congr fun r => ?_
    cases r with
    | proceed => exact ih
    | exit target => exact (pure_bind ..).symm
    | constraintFailed => exact (pure_bind ..).symm

theorem executeAll_singleton (a : Statement) : executeAll env phase [a] = execute env phase a := by
  rw [executeAll_cons, executeAll]
  refine (bind_congr fun r => ?_).trans (bind_pure _)
  cases r <;> rfl

theorem executeBranches_append (l m : List Branch) :
    executeBranches env phase (l ++ m) = (do
      match ← executeBranches env phase l with
      | some signal => pure (some signal)
      | none => executeBranches env phase m) := by
  induction l with
  | nil =>
    rw [List.nil_append, executeBranches, pure_bind]
  | cons b rest ih =>
    rw [List.cons_append, executeBranches, executeBranches, bind_assoc]
    refine bind_congr fun r => ?_
    cases r with
    | none => exact ih
    | some signal => exact (pure_bind ..).symm

/-! ## Places in a program -/

/-- A place in a list of statements: in the list itself, or in one of the lists of a statement of
it. -/
inductive Nest where
  | here (before after : List Statement)
  | fragment (before : List Statement) (inner : Nest) (after : List Statement)
  /-- In a branch of a condition, after the earlier ones. -/
  | branch (before : List Statement) (earlier : List Branch) (test : Expr) (inner : Nest)
      (later : List Branch) (otherwise : List Statement) (after : List Statement)
  /-- In the statements after all branches of a condition. -/
  | fallback (before : List Statement) (first : Branch) (others : List Branch) (inner : Nest)
      (after : List Statement)

/-- The condition with a branch at a place among others. -/
def conditionWith (earlier : List Branch) (b : Branch) (later : List Branch)
    (otherwise : List Statement) : Statement :=
  match earlier with
  | [] => .condition b later otherwise
  | first :: others => .condition first (others ++ b :: later) otherwise

namespace Nest

/-- The statements with some put in a place. -/
def fill : Nest → List Statement → List Statement
  | here before after, l => before ++ (l ++ after)
  | fragment before inner after, l => before ++ .fragment (inner.fill l) :: after
  | branch before earlier test inner later otherwise after, l =>
    before ++ conditionWith earlier (.mk test (inner.fill l)) later otherwise :: after
  | fallback before first others inner after, l =>
    before ++ .condition first others (inner.fill l) :: after

/-- A run from one stage gets to a place with another stage: what stands before proceeds, no
earlier branch is taken, and the test of the branch around the place holds. -/
def Reaches (env : Environment σ) (phase : Phase) : Nest → Stage σ → Stage σ → Prop
  | here before _, s, u => (executeAll env phase before).runOn s = (.ok .proceed, u)
  | fragment before inner _, s, u =>
    ∃ v, (executeAll env phase before).runOn s = (.ok .proceed, v) ∧
      inner.Reaches env phase v u
  | branch before earlier test inner _ _ _, s, u =>
    ∃ v w x, (executeAll env phase before).runOn s = (.ok .proceed, v) ∧
      (executeBranches env phase earlier).runOn v = (.ok none, w) ∧
      (holds env test).runOn w = (.ok true, x) ∧ inner.Reaches env phase x u
  | fallback before first others inner _, s, u =>
    ∃ v w, (executeAll env phase before).runOn s = (.ok .proceed, v) ∧
      (executeBranches env phase (first :: others)).runOn v = (.ok none, w) ∧
      inner.Reaches env phase w u

end Nest

theorem execute_conditionWith (earlier : List Branch) (b : Branch) (later : List Branch)
    (otherwise : List Statement) :
    execute env phase (conditionWith earlier b later otherwise) =
      executeBranches env phase (earlier ++ b :: later) >>=
        orElse (executeAll env phase otherwise) := by
  cases earlier <;> exact execute_condition _ _ _

/-! ## Equal runs in a place -/

/-- Statements that run the same do so in every place. -/
theorem Nest.executeAll_fill_congr {l m : List Statement}
    (h : executeAll env phase l = executeAll env phase m) :
    ∀ c : Nest, executeAll env phase (c.fill l) = executeAll env phase (c.fill m)
  | here before after => by
    rw [fill, fill, executeAll_append, executeAll_append, executeAll_append, executeAll_append, h]
  | fragment before inner after => by
    rw [fill, fill, executeAll_append, executeAll_append, executeAll_cons, executeAll_cons,
      execute, execute, executeAll_fill_congr h inner]
  | branch before earlier test inner later otherwise after => by
    rw [fill, fill, executeAll_append, executeAll_append, executeAll_cons, executeAll_cons,
      execute_conditionWith, execute_conditionWith, executeBranches_append, executeBranches_append,
      executeBranches, executeBranches, executeBranch, executeBranch,
      executeAll_fill_congr h inner]
  | fallback before first others inner after => by
    rw [fill, fill, executeAll_append, executeAll_append, executeAll_cons, executeAll_cons,
      execute_condition, execute_condition, executeAll_fill_congr h inner]

/-- A fragment runs as its statements do. -/
theorem executeAll_fragment (body : List Statement) :
    executeAll env phase [.fragment body] = executeAll env phase body := by
  rw [executeAll_singleton, execute]

/-- An else-if runs as a condition of its own after the branches before it. -/
theorem executeAll_elseIf (first e : Branch) (others : List Branch) (otherwise : List Statement) :
    executeAll env phase [.condition first (e :: others) otherwise] =
      executeAll env phase [.condition first [] [.condition e others otherwise]] := by
  rw [executeAll_singleton, executeAll_singleton, execute_condition, execute_condition,
    executeAll_singleton, execute_condition, ← List.singleton_append, executeBranches_append,
    bind_assoc]
  refine bind_congr fun r => ?_
  cases r with
  | none => rfl
  | some signal => exact pure_bind ..

/-! ## What a signal stops -/

theorem runOn_executeAll_append {l m : List Statement} {s u : Stage σ}
    (h : (executeAll env phase l).runOn s = (.ok .proceed, u)) :
    (executeAll env phase (l ++ m)).runOn s = (executeAll env phase m).runOn u := by
  rw [executeAll_append, Exec.runOn_bind_of_ok h]
  rfl

/-- A statement that gives a signal other than `proceed` ends the list that it starts. -/
theorem runOn_executeAll_cons_of_ne {a : Statement} {rest : List Statement} {s t : Stage σ}
    {signal : Signal} (h : (execute env phase a).runOn s = (.ok signal, t))
    (hs : signal ≠ .proceed) :
    (executeAll env phase (a :: rest)).runOn s = (.ok signal, t) := by
  rw [executeAll_cons, Exec.runOn_bind_of_ok h, Signal.andThen_of_ne hs]
  rfl

/-- A signal other than `proceed` that is given in a place is that of the whole run, which ends with
the stage it was given on. -/
theorem Nest.runOn_fill {l : List Statement} {signal : Signal} {u t : Stage σ}
    (h : (executeAll env phase l).runOn u = (.ok signal, t)) (hs : signal ≠ .proceed) :
    ∀ (c : Nest) {s : Stage σ}, c.Reaches env phase s u →
      (executeAll env phase (c.fill l)).runOn s = (.ok signal, t)
  | here before after, s, hc => by
    rw [fill, runOn_executeAll_append hc, executeAll_append, Exec.runOn_bind_of_ok h,
      Signal.andThen_of_ne hs]
    rfl
  | fragment before inner after, s, ⟨v, hb, hc⟩ => by
    rw [fill, runOn_executeAll_append hb]
    refine runOn_executeAll_cons_of_ne ?_ hs
    rw [execute]
    exact runOn_fill h hs inner hc
  | branch before earlier test inner later otherwise after, s, ⟨v, w, x, hb, he, ht, hc⟩ => by
    rw [fill, runOn_executeAll_append hb]
    refine runOn_executeAll_cons_of_ne ?_ hs
    have hbranch : (executeBranch env phase (.mk test (inner.fill l))).runOn w =
        (.ok (some signal), t) := by
      rw [executeBranch, Exec.runOn_bind_of_ok ht]
      exact Exec.runOn_bind_of_ok (runOn_fill h hs inner hc)
    have hbranches : (executeBranches env phase
        (earlier ++ .mk test (inner.fill l) :: later)).runOn v = (.ok (some signal), t) := by
      rw [executeBranches_append, Exec.runOn_bind_of_ok he, executeBranches,
        Exec.runOn_bind_of_ok hbranch]
      rfl
    rw [execute_conditionWith, Exec.runOn_bind_of_ok hbranches]
    rfl
  | fallback before first others inner after, s, ⟨v, w, hb, he, hc⟩ => by
    rw [fill, runOn_executeAll_append hb]
    refine runOn_executeAll_cons_of_ne ?_ hs
    rw [execute_condition, Exec.runOn_bind_of_ok he]
    exact runOn_fill h hs inner hc

/-- **Structural equivalences.** In every place of a program a fragment may be spliced into the list
around it, and an else-if may become a condition of its own in the statements after the first
branch: the runs are equal, in what they end with, write, draw and record. A signal other than
`proceed` that is given in a place ends the whole run at once, with the stage it was given on. -/
theorem Program.run_nested (env : Environment σ) (phase : Phase) (c : Nest) :
    (∀ body : List Statement,
      (Program.mk phase (c.fill [.fragment body])).run env =
        (Program.mk phase (c.fill body)).run env) ∧
      (∀ (first e : Branch) (others : List Branch) (otherwise : List Statement),
        (Program.mk phase (c.fill [.condition first (e :: others) otherwise])).run env =
          (Program.mk phase (c.fill
            [.condition first [] [.condition e others otherwise]])).run env) ∧
      ∀ (l : List Statement) (signal : Signal) (s u t : Stage σ), c.Reaches env phase s u →
        (executeAll env phase l).runOn u = (.ok signal, t) → signal ≠ .proceed →
          ((Program.mk phase (c.fill l)).run env).runOn s = (.ok signal, t) := by
  refine ⟨fun body => ?_, fun first e others otherwise => ?_, fun l signal s u t hc h hs => ?_⟩
  · exact c.executeAll_fill_congr (executeAll_fragment body)
  · exact c.executeAll_fill_congr (executeAll_elseIf first e others otherwise)
  · exact c.runOn_fill h hs hc

/-- A place in an else-if in a fragment, with a reset after it in each of the lists around it. -/
def lastElseIf : Nest :=
  .fragment []
    (.branch [] [.mk (.literal (.boolean false)) []] (.literal (.boolean true))
      (.here [.reset "completionStatus"] [.reset "TOTAL"]) [] [] [.reset "TOTAL"])
    [.reset "TOTAL"]

/-- An exit there skips the three resets that come later, each of which would fail. -/
theorem lastElseIf_exit :
    ((Program.mk .response (lastElseIf.fill [.exit .response])).run .replay).runOn
        ⟨.builtins, .start ⟨[], []⟩⟩ = (.ok (.exit .response), ⟨.builtins, .start ⟨[], []⟩⟩) := by
  refine (Program.run_nested .replay .response lastElseIf).2.2 _ _ _ ⟨.builtins, .start ⟨[], []⟩⟩ _
    ?_ rfl (by decide)
  exact ⟨_, rfl, _, _, _, rfl, rfl, rfl, rfl⟩

end Assessment
