import Assessment.Proofs.Expr.Mention
import Assessment.Proofs.Program.Exec

/-!
# The names that a program mentions

A program mentions the names it writes to and those its expressions mention. A run depends on what
the store holds under these, on the state of the source, and on nothing else. It changes what is
held under them, and nothing else.

So two programs that mention different names may run in either order, and a variable that no program
mentions may be left out of a store. Names are mentioned by statements, expressions, attributes and
patterns; a dotted name is mentioned as it stands.

* `Program.run_inTandem`: on stages that agree on the names mentioned, runs end the same, draw the
  same, record the same and write the same, and leave every other name alone.
-/

namespace Assessment

variable {σ α : Type}

/-! ## Names -/

mutual

/-- The names that a statement mentions. -/
def Statement.mentions : Statement → List String
  | .condition first others otherwise =>
    first.mentions ++ Branch.mentionsAll others ++ Statement.mentionsAll otherwise
  | .assign _ id value | .setCorrect id value | .setDefault id value => id :: value.mentions
  | .reset id => [id]
  | .lookupOutcome id source => id :: source.mentions
  | .constraint test => test.mentions
  | .exit _ => []
  | .fragment body => Statement.mentionsAll body

/-- The names that statements mention. -/
def Statement.mentionsAll : List Statement → List String
  | [] => []
  | a :: rest => a.mentions ++ Statement.mentionsAll rest

/-- The names that a branch mentions. -/
def Branch.mentions : Branch → List String
  | .mk test body => test.mentions ++ Statement.mentionsAll body

/-- The names that branches mention. -/
def Branch.mentionsAll : List Branch → List String
  | [] => []
  | b :: rest => b.mentions ++ Branch.mentionsAll rest

end

/-- The names that a program mentions. -/
def Program.mentions (p : Program) : List String := Statement.mentionsAll p.statements

/-! ## Stages in tandem -/

/-- Two runs have come from `a` to `s` and from `b` to `t` doing the same under the names of `N` and
nothing under others: the stores agree on `N` and have kept all other names, and the trails have the
same state of the source and have got the same notes. -/
structure Stage.Tandem (N : String → Prop) (a b s t : Stage σ) : Prop where
  agree : s.store.AgreesOn N t.store
  keptLeft : ∀ id, ¬ N id → s.store.holding id = a.store.holding id
  keptRight : ∀ id, ¬ N id → t.store.holding id = b.store.holding id
  trail : Trail.Tandem a.trail.diagnostics b.trail.diagnostics s.trail t.trail

variable {N : String → Prop} {a b : Stage σ} {env : Environment σ} {phase : Phase}

theorem Stage.Tandem.refl (hs : a.store.AgreesOn N b.store)
    (ht : a.trail.source = b.trail.source) : Stage.Tandem N a b a b where
  agree := hs
  keptLeft _ _ := rfl
  keptRight _ _ := rfl
  trail := ⟨ht, [], (List.append_nil _).symm, (List.append_nil _).symm⟩

namespace Exec

theorem inStep_read {f : Store → Except Fault α}
    (hf : ∀ s t : Store, s.AgreesOn N t → f s = f t) :
    InStep (Stage.Tandem (σ := σ) N a b) (read f) (read f) :=
  fun _ _ h => ⟨hf _ _ h.agree, h⟩

/-- A write within the names of `N` is the same in both runs. -/
theorem inStep_update {f : Store → Except Fault Store} (hf : Store.Within N f) :
    InStep (Stage.Tandem (σ := σ) N a b) (update f) (update f) := by
  intro s t h
  show ((update f).runOn s).1 = ((update f).runOn t).1 ∧
    Stage.Tandem N a b ((update f).runOn s).2 ((update f).runOn t).2
  cases hs : f s.store with
  | error e =>
    rw [runOn_update_of_error hs, runOn_update_of_error (hf.error h.agree hs)]
    exact ⟨rfl, h⟩
  | ok s' =>
    obtain ⟨t', ht, h'⟩ := hf.ok h.agree hs
    rw [runOn_update_of_ok hs, runOn_update_of_ok ht]
    exact ⟨rfl, h', fun id hid => (hf.frame hs id hid).trans (h.keptLeft id hid),
      fun id hid => (hf.frame ht id hid).trans (h.keptRight id hid), h.trail⟩

theorem inStep_eval {e : Expr} (he : ∀ id ∈ e.mentions, N id) :
    InStep (Stage.Tandem N a b) (eval env e) (eval env e) := by
  intro s t h
  have heval : InStep (Trail.Tandem a.trail.diagnostics b.trail.diagnostics) (e.eval env s.store)
      (e.eval env t.store) := e.eval_inStep h.agree he
  obtain ⟨hr, ht⟩ := heval _ _ h.trail
  exact ⟨hr, h.agree, h.keptLeft, h.keptRight, ht⟩

end Exec

theorem inStep_holds {e : Expr} (he : ∀ id ∈ e.mentions, N id) :
    InStep (Stage.Tandem N a b) (holds env e) (holds env e) :=
  .bind (Exec.inStep_eval he) fun _ => Exec.inStep_read fun _ _ _ => rfl

theorem checkWritable_of_holding {s t : Store} {id : String} (h : s.holding id = t.holding id) :
    checkWritable phase id s = checkWritable phase id t := by
  rw [checkWritable, checkWritable, Store.namespaceOf?_of_holding h]

theorem checkDeclared_of_holding {s t : Store} {id : String} (h : s.holding id = t.holding id)
    (kind : Namespace) : checkDeclared kind id s = checkDeclared kind id t := by
  cases kind
  · rw [checkDeclared, checkDeclared, Store.response_of_holding h]
  · rw [checkDeclared, checkDeclared, Store.outcome_of_holding h]
  · rw [checkDeclared, checkDeclared, Store.template_of_holding h]

theorem lookedUp_of_holding {s t : Store} {id : String} (h : s.holding id = t.holding id)
    (v : Value) : lookedUp id v s = lookedUp id v t := by
  rw [lookedUp, lookedUp, Store.outcome_of_holding h]

/-! ## Runs in tandem -/

mutual

/-- **A run of a statement** goes in tandem on stages that agree on the names it mentions. -/
theorem execute_inStep : ∀ c : Statement, (∀ id ∈ c.mentions, N id) →
    InStep (Stage.Tandem N a b) (execute env phase c) (execute env phase c)
  | .condition first others otherwise, hm => by
    obtain ⟨hm, hotherwise⟩ := List.forall_mem_append.1 (by rwa [Statement.mentions] at hm)
    obtain ⟨hfirst, hothers⟩ := List.forall_mem_append.1 hm
    rw [execute]
    refine .bind (executeBranch_inStep first hfirst) fun r => ?_
    cases r with
    | some signal => exact .pure _
    | none =>
      refine .bind (executeBranches_inStep others hothers) fun r => ?_
      cases r with
      | some signal => exact .pure _
      | none => exact executeAll_inStep otherwise hotherwise
  | .assign kind id e, hm => by
    obtain ⟨hid, he⟩ := List.forall_mem_cons.1 (by rwa [Statement.mentions] at hm)
    rw [execute]
    refine .bind (Exec.inStep_read fun s t h => checkDeclared_of_holding (h id hid) kind) ?_
    intro _
    refine .bind (Exec.inStep_read fun s t h => checkWritable_of_holding (h id hid)) fun _ => ?_
    refine .bind (Exec.inStep_eval he) fun v => ?_
    exact .bind (Exec.inStep_update (Store.within_setValue hid v)) fun _ => .pure _
  | .setCorrect id e, hm => by
    obtain ⟨hid, he⟩ := List.forall_mem_cons.1 (by rwa [Statement.mentions] at hm)
    rw [execute]
    refine .bind (Exec.inStep_read fun _ _ _ => rfl) fun _ => ?_
    refine .bind (Exec.inStep_read fun s t h => checkDeclared_of_holding (h id hid) _) fun _ => ?_
    refine .bind (Exec.inStep_eval he) fun v => ?_
    exact .bind (Exec.inStep_update (Store.within_setCorrect hid v)) fun _ => .pure _
  | .setDefault id e, hm => by
    obtain ⟨hid, he⟩ := List.forall_mem_cons.1 (by rwa [Statement.mentions] at hm)
    rw [execute]
    refine .bind (Exec.inStep_read fun _ _ _ => rfl) fun _ => ?_
    refine .bind (Exec.inStep_eval he) fun v => ?_
    exact .bind (Exec.inStep_update (Store.within_setDefault hid v)) fun _ => .pure _
  | .reset id, hm => by
    rw [Statement.mentions, List.forall_mem_singleton] at hm
    rw [execute]
    refine .bind (Exec.inStep_read fun s t h => checkWritable_of_holding (h id hm)) fun _ => ?_
    exact .bind (Exec.inStep_update (Store.within_resetToDefault hm)) fun _ => .pure _
  | .lookupOutcome id e, hm => by
    obtain ⟨hid, he⟩ := List.forall_mem_cons.1 (by rwa [Statement.mentions] at hm)
    rw [execute]
    refine .bind (Exec.inStep_eval he) fun v => ?_
    refine .bind (Exec.inStep_read fun s t h => lookedUp_of_holding (h id hid) v) fun w => ?_
    exact .bind (Exec.inStep_update (Store.within_setValue hid w)) fun _ => .pure _
  | .constraint test, hm => by
    rw [Statement.mentions] at hm
    rw [execute]
    refine .bind (Exec.inStep_read fun _ _ _ => rfl) fun _ => ?_
    exact .bind (inStep_holds hm) fun _ => .pure _
  | .exit target, _ => by
    rw [execute]
    exact .pure _
  | .fragment body, hm => by
    rw [Statement.mentions] at hm
    rw [execute]
    exact executeAll_inStep body hm

theorem executeAll_inStep : ∀ l : List Statement, (∀ id ∈ Statement.mentionsAll l, N id) →
    InStep (Stage.Tandem N a b) (executeAll env phase l) (executeAll env phase l)
  | [], _ => by
    rw [executeAll]
    exact .pure _
  | c :: rest, hm => by
    obtain ⟨hc, hrest⟩ := List.forall_mem_append.1 (by rwa [Statement.mentionsAll] at hm)
    rw [executeAll]
    refine .bind (execute_inStep c hc) fun r => ?_
    cases r with
    | proceed => exact executeAll_inStep rest hrest
    | exit target => exact .pure _
    | constraintFailed => exact .pure _

theorem executeBranch_inStep : ∀ c : Branch, (∀ id ∈ c.mentions, N id) →
    InStep (Stage.Tandem N a b) (executeBranch env phase c) (executeBranch env phase c)
  | .mk test body, hm => by
    obtain ⟨htest, hbody⟩ := List.forall_mem_append.1 (by rwa [Branch.mentions] at hm)
    rw [executeBranch]
    refine .bind (inStep_holds htest) fun r => ?_
    cases r with
    | false => exact .pure _
    | true => exact .bind (executeAll_inStep body hbody) fun _ => .pure _

theorem executeBranches_inStep : ∀ l : List Branch, (∀ id ∈ Branch.mentionsAll l, N id) →
    InStep (Stage.Tandem N a b) (executeBranches env phase l) (executeBranches env phase l)
  | [], _ => by
    rw [executeBranches]
    exact .pure _
  | c :: rest, hm => by
    obtain ⟨hc, hrest⟩ := List.forall_mem_append.1 (by rwa [Branch.mentionsAll] at hm)
    rw [executeBranches]
    refine .bind (executeBranch_inStep c hc) fun r => ?_
    cases r with
    | some signal => exact .pure _
    | none => exact executeBranches_inStep rest hrest

end

/-- Runs of a program go in tandem whenever they agree on names with those it mentions among
them. -/
theorem Program.run_inStep (env : Environment σ) {p : Program} (hN : ∀ id ∈ p.mentions, N id) :
    InStep (Stage.Tandem N a b) (p.run env) (p.run env) :=
  executeAll_inStep p.statements hN

/-- **A program depends on the names it mentions, and changes them, alone.** Two runs that start
with the same under these names and with the same state of the source end with the same signal or
fault, in tandem: their stores agree on these names again and are otherwise as they were, and the
same was drawn and noted on the way. -/
theorem Program.run_inTandem (env : Environment σ) {p : Program}
    (hstore : a.store.AgreesOn (· ∈ p.mentions) b.store)
    (hsource : a.trail.source = b.trail.source) :
    ((p.run env).runOn a).1 = ((p.run env).runOn b).1 ∧
      Stage.Tandem (· ∈ p.mentions) a b ((p.run env).runOn a).2 ((p.run env).runOn b).2 :=
  p.run_inStep env (fun _ h => h) a b (.refl hstore hsource)

/-- A program that rolls a die. -/
def dieRoll : Program :=
  ⟨.outcome, [.assign .outcome "SCORE" (.randomInteger (.value 1) (.value 6) (.value 1))]⟩

/-- A store for the roll of a die. -/
def dieStore : Store :=
  Store.builtins.declareOutcome ⟨"SCORE", Store.plainOutcome ⟨.single, some .integer⟩ .null⟩

/-- The store with one more outcome variable. -/
def notedDieStore : Store :=
  dieStore.declareOutcome ⟨"NOTE", Store.plainOutcome ⟨.single, some .string⟩ .null⟩

/-- The roll does not depend on whether there is a note, and leaves it alone. -/
theorem dieRoll_inTandem :
    let run (s : Store) := (dieRoll.run .replay).runOn ⟨s, .start ⟨[4], []⟩⟩
    (run dieStore).2.store.value "SCORE" = .ok (.single (.integer 5)) ∧
      (run notedDieStore).2.store.holding "SCORE" = (run dieStore).2.store.holding "SCORE" ∧
      (run notedDieStore).2.store.holding "NOTE" = notedDieStore.holding "NOTE" ∧
      (run notedDieStore).2.trail.source = (run dieStore).2.trail.source := by
  have hstore : dieStore.AgreesOn (· ∈ dieRoll.mentions) notedDieStore :=
    List.forall_mem_singleton.2 rfl
  have h := Program.run_inTandem .replay (a := ⟨dieStore, .start ⟨[4], []⟩⟩)
    (b := ⟨notedDieStore, .start ⟨[4], []⟩⟩) hstore rfl
  exact ⟨rfl, (h.2.agree "SCORE" List.mem_cons_self).symm, h.2.keptRight "NOTE" (by decide),
    h.2.trail.1.symm⟩

end Assessment
