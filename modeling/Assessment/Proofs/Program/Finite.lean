import Assessment.Proofs.Expr.Finite
import Assessment.Proofs.Program.Template

/-!
# When everything stays finite

Values are finite and stay so, whatever expressions are evaluated and whatever programs run, unless
a number of the test session overflows when it is weighted: weighted values and weighted normal
bounds become values as they are, where every other float becomes NULL when it is not finite.

The comment on `Scalar` says that arithmetic with a result that is not finite yields NULL before a
scalar is built. The functions `weighted` and `outcome_bounds` do without that check.

* `Program.run_finite`: programs keep stores finite.
* `Environment.staysFinite_iff`: everything stays finite exactly when the session does not overflow.
* `weighted_score_not_finite`: a session whose numbers are finite, and a weighted score that is not.
-/

namespace Assessment

variable {σ : Type} {env : Environment σ}

/-! ## Programs -/

/-- The expression whose value decides what a statement writes. -/
def Statement.source? : Statement → Option Expr
  | .assign _ _ e | .setCorrect _ e | .setDefault _ e | .lookupOutcome _ e => some e
  | _ => none

/-- The floats and durations that a statement writes down for a variable are finite. -/
def Statement.Finite (a : Statement) : Prop := ∀ e, a.source? = some e → e.Finite

/-- The statements that a program is made of are finite. -/
def Program.Finite (p : Program) : Prop := ∀ a ∈ p.parts, a.Finite

/-- **A write keeps a store finite.** -/
theorem Write.finite (he : env.Finite) (ho : ¬ env.Overflows) {phase : Phase} {a : Statement}
    {s t : Store} (h : Write env phase a s t) (ha : a.Finite) (hs : s.Finite) : t.Finite := by
  have yields : ∀ {e : Expr} {v : Value}, a.source? = some e → e.Yields env s v → v.Finite := by
    rintro e v hsource ⟨trail, hv⟩
    exact e.finite_eval he ho hs (ha e hsource) trail v hv
  cases h with
  | assign _ _ _ hv ht => exact hs.setValue (yields rfl hv) ht
  | setCorrect _ hv ht => exact hs.setCorrect (yields rfl hv) ht
  | setDefault _ hv ht => exact hs.setDefault (yields rfl hv) ht
  | reset _ _ ht => exact hs.resetToDefault ht
  | lookup _ hl ht =>
    -- What is written stands in the table of the outcome variable.
    obtain ⟨o, table, htable, ho, hw⟩ := lookedUp_eq_ok_iff.1 hl
    exact hs.setValue ((hs.table htable ho).resolve _ _ hw) ht

/-- **Programs keep stores finite**, whether they end in a signal or in a fault. -/
theorem Program.run_finite (he : env.Finite) (ho : ¬ env.Overflows) {p : Program} (hp : p.Finite) :
    Exec.Preserves Store.Finite (p.run env) :=
  p.run_preserves fun a ha _ _ hw hs => hw.finite he ho (hp a ha) hs

theorem instantiate_finite (he : env.Finite) (ho : ¬ env.Overflows) {p : Program} (hp : p.Finite)
    (m : Nat) : Exec.Preserves Store.Finite (instantiate env p m) :=
  instantiate_preserves (fun _ hs => hs.resetTemplates) (Program.run_finite he ho hp) m

/-! ## What an overflow gives -/

theorem runOn_session {s : TestSession} {q : SessionQuery} {f : ItemFilter} {v : Value}
    (hs : env.session = some s) (h : q.answer s f = .ok v) (store : Store) (t : Trail σ) :
    ((Expr.session q f).eval env store).runOn t = (.ok v, t) := by
  have hr : (Eval.ofExcept (env.requireSession q.name) : Eval σ TestSession).runOn t =
      (.ok s, t) := by
    rw [Eval.runOn_ofExcept, Environment.requireSession, hs]
  rw [Expr.eval, Eval.runOn_bind_of_ok hr, Eval.runOn_ofExcept, h]

theorem runOn_dottedVariable {s : TestSession} {item : String} (name : String)
    (hs : env.session = some s) (hitem : '.' ∉ item.toList) (w : Option String) (t : Trail σ) :
    ((Expr.variable (item ++ "." ++ name) w).eval env .empty).runOn t =
      (.ok (s.itemVariable item name w), t) := by
  rw [Expr.eval, Eval.runOn_ofExcept]
  unfold variableValue
  rw [dottedName?_append name hitem, hs]
  rfl

/-- A session that overflows gives an expression a value that is not finite. -/
theorem Environment.Overflows.exists_eval (he : env.Finite) (ho : env.Overflows) (t : Trail σ) :
    ∃ e : Expr, e.Finite ∧ ∃ v, (e.eval env .empty).runOn t = (.ok v, t) ∧ ¬ v.Finite := by
  obtain ⟨s, hs, ho⟩ := ho
  have hfin := he.session s hs
  cases ho with
  | @value i id w x hshows hx hw =>
    cases hshows with
    | selected hi hsel =>
      obtain ⟨v, hv, hnot⟩ := hfin.exists_values hi hsel hx hw
      exact ⟨.session (.values id (some x.baseType) (some w)) .all, by simp [Expr.Finite], v,
        runOn_session (q := .values id _ _) hs hv _ t, hnot⟩
    | @named item hitem hi =>
      refine ⟨.variable (item ++ "." ++ id) (some w), by simp [Expr.Finite], _,
        runOn_dottedVariable id hs hitem (some w) t, fun hv => hw ?_⟩
      rw [TestSession.itemVariable, hi] at hv
      simp only [hx] at hv
      exact hv _ List.mem_cons_self
  | @bound f b id w i x hall hi hx hw =>
    obtain ⟨v, hv, hnot⟩ := TestSession.exists_bounds hall hi hx hw
    exact ⟨.session (.bounds b id w) f, by simp [Expr.Finite], v,
      runOn_session (q := .bounds b id w) hs hv _ t, hnot⟩

/-! ## The exact condition -/

/-- **When everything stays finite.** With finite operators and a finite session, every finite
expression that has a value on a finite store has a finite one, and every finite program keeps the
variables finite, run on its own or to make a variant, whether it ends well or in a fault, exactly
when the session does not overflow. -/
theorem Environment.staysFinite_iff [Nonempty σ] (he : env.Finite) :
    ((∀ (e : Expr) (store : Store), e.Finite → store.Finite →
        Eval.Ensures Value.Finite (e.eval env store)) ∧
      ∀ p : Program, p.Finite → Exec.Preserves Store.Finite (p.run env) ∧
        ∀ m, Exec.Preserves Store.Finite (instantiate env p m)) ↔ ¬ env.Overflows := by
  constructor
  · rintro ⟨heval, -⟩ ho
    obtain ⟨source⟩ := ‹Nonempty σ›
    obtain ⟨e, hfin, v, hv, hnot⟩ := ho.exists_eval he (.start source)
    exact hnot (heval e .empty hfin Store.finite_empty (.start source) v (by rw [hv]))
  · intro ho
    exact ⟨fun e store h hs => e.finite_eval he ho hs h, fun p hp =>
      ⟨p.run_finite he ho hp, instantiate_finite he ho hp⟩⟩

/-! ## A weighted score -/

/-- A test of one item with a score of ten, of ten at most, and a weight. -/
def weightedTest (weight : Float) : TestSession where
  items := [{ ItemSession.blank "Q1" with
    weights := Table.empty.insert "W" weight
    results := Table.empty.insert "SCORE"
      ⟨⟨.single, some .float⟩, .single (.float 10.0), .null, none, some 10.0⟩ }]

/-- An environment with such a test. -/
def weightedEnvironment (weight : Float) : Environment RandomSource.Script :=
  ⟨.scripted, .empty, some (weightedTest weight), .builtin⟩

theorem finite_weightedEnvironment {weight : Float} (h : weight.isFinite) :
    (weightedEnvironment weight).Finite where
  operators e he := by cases he
  session s hs i hi := by
    cases hs
    cases List.mem_singleton.1 hi
    refine ⟨fun id v hv => ?_, fun id w hw => ?_⟩
    · rw [Table.get?_insert] at hv
      split_ifs at hv
      · cases hv
        exact ⟨by decide, by decide, nofun, fun x hx => by cases hx; decide⟩
      · cases hv
    · rw [Table.get?_insert] at hw
      split_ifs at hw
      · cases hw
        exact h
      · cases hw

/-- A weight of the item is the one of the test, or one. -/
theorem weightOf_weightedTest {weight : Float} {i : ItemSession}
    (hi : i ∈ (weightedTest weight).items) (w : Option String) :
    i.weightOf w = weight ∨ i.weightOf w = 1.0 := by
  cases List.mem_singleton.1 hi
  cases w with
  | none => exact .inr rfl
  | some w =>
    rw [ItemSession.weightOf, ItemSession.weight, Table.get?_insert]
    split_ifs
    · exact .inl rfl
    · exact .inr rfl

/-- A score of ten with a weight of one half does not overflow. -/
theorem not_overflows_weightedEnvironment : ¬ (weightedEnvironment 0.5).Overflows := by
  rintro ⟨s, hs, ho⟩
  cases hs
  cases ho with
  | @value i id w x hshows hx hw =>
    have hi := hshows.mem
    have hweight := weightOf_weightedTest hi (some w)
    cases List.mem_singleton.1 hi
    rw [ItemSession.value, Table.get?_insert] at hx
    split_ifs at hx
    · cases hx
      rw [ItemSession.weightOf] at hweight
      rcases hweight with hweight | hweight <;> rw [hweight] at hw <;> exact hw (by decide)
    · cases hx
  | @bound f b id w i x hall hi hx hw =>
    have hi := (TestSession.mem_select.1 hi).1
    have hweight := weightOf_weightedTest hi w
    cases List.mem_singleton.1 hi
    rw [TestSession.declaredBound?, Table.get?_insert] at hx
    split_ifs at hx
    · cases b <;> cases hx
      rcases hweight with hweight | hweight <;> rw [hweight] at hw <;> exact hw (by decide)
    · cases hx

/-- All programs keep finite what they are given next to a test of a score of ten with a weight of
one half. -/
theorem halfWeight_staysFinite :
    (weightedEnvironment 0.5).Finite ∧ ∀ p : Program, p.Finite →
      Exec.Preserves Store.Finite (p.run (weightedEnvironment 0.5)) ∧
        ∀ m, Exec.Preserves Store.Finite (instantiate (weightedEnvironment 0.5) p m) :=
  have : Nonempty RandomSource.Script := ⟨⟨[], []⟩⟩
  have he := finite_weightedEnvironment (show (0.5 : Float).isFinite by decide)
  ⟨he, ((Environment.staysFinite_iff he).2 not_overflows_weightedEnvironment).2⟩

theorem runOn_weightedScore (weight : Float) :
    (((Expr.variable "Q1.SCORE" (some "W")).eval (weightedEnvironment weight) .empty).runOn
        (.start ⟨[], []⟩)).1 =
      .ok (.single (TestSession.weighted (.float 10.0) weight)) := rfl

/-- The weighted score of an item whose numbers are finite is not finite. -/
theorem weighted_score_not_finite :
    (weightedEnvironment 1e308).Finite ∧ (Expr.variable "Q1.SCORE" (some "W")).Finite ∧
      Store.empty.Finite ∧
      ∃ v, (((Expr.variable "Q1.SCORE" (some "W")).eval (weightedEnvironment 1e308) .empty).runOn
        (.start ⟨[], []⟩)).1 = .ok v ∧ ¬ v.Finite := by
  refine ⟨finite_weightedEnvironment (by decide +kernel), by simp [Expr.Finite], Store.finite_empty,
    _, runOn_weightedScore 1e308, by decide +kernel⟩

end Assessment
