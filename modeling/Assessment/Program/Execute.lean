import Assessment.Expr.Eval
import Assessment.Program.Basic

/-!
# Running programs

Statements run in order on a store: `execute` is `execute_statement`, `executeAll` is
`execute_statements`, and `executeBranches` with `truth` is `execute_condition` (section B.4.2 of
the specification). A signal other than `proceed` stops every list of statements around the one that
gave it. A fault stops them too, and what was written before it stays.

Writing is a matter of the phase (`check_writable`, `require_phase`): outcome variables are writable
in every one, response variables in response processing and template variables in template
processing. Correct responses, declared defaults and constraints belong to template processing
alone. The phase is asked about the kind that the name means, which for a shared name need not be
the kind that the statement names; and lookupOutcomeValue does not ask.

`Exec σ α` is a computation on a `Stage`, which is a store with the trail of the evaluations so far.
-/

namespace Assessment

/-- What programs change: the variables, and the trail of the evaluations. -/
structure Stage (σ : Type) where
  store : Store
  trail : Trail σ

/-- A computation on a stage that may end in a fault; the stage is there after a fault too. -/
abbrev Exec (σ α : Type) := ExceptT Fault (StateM (Stage σ)) α

namespace Exec

variable {σ α : Type}

/-- The result of a computation on a stage, and the stage after it. -/
def runOn (m : Exec σ α) (s : Stage σ) : Except Fault α × Stage σ := m s

/-- Looks at the store. -/
def read (f : Store → Except Fault α) : Exec σ α := fun s => (f s.store, s)

/-- Changes the store; a fault leaves it as it was. -/
def update (f : Store → Except Fault Store) : Exec σ Unit := fun s =>
  match f s.store with
  | .ok store => (.ok (), { s with store })
  | .error e => (.error e, s)

/-- Evaluates an expression. -/
def eval (env : Environment σ) (e : Expr) : Exec σ Value := fun s =>
  let (r, trail) := (e.eval env s.store).runOn s.trail
  (r, { s with trail })

/-- Records a diagnostic after all others. -/
def record (d : Diagnostic) : Exec σ Unit := fun s =>
  (.ok (), { s with trail := { s.trail with diagnostics := s.trail.diagnostics ++ [d] } })

end Exec

/-! ## What statements check -/

/-- The truth of a condition; one that counts as NULL does not hold (`truth`). -/
def truth (v : Value) : Except Fault Bool :=
  if v.isNull then .ok false
  else match v with
    | .single (.boolean b) => .ok b
    | v => .error (.nonBooleanCondition v.describe)

/-- Whether variables of a kind are writable in a phase. -/
def Phase.mayWrite (phase : Phase) : Namespace → Bool
  | .outcome => true
  | .response => phase = .response
  | .template => phase = .template

/-- A fault unless the variable that a name means is writable (`check_writable`). -/
def checkWritable (phase : Phase) (id : String) (store : Store) : Except Fault Unit :=
  match store.namespaceOf? id with
  | none => .error (undeclared id)
  | some n => if phase.mayWrite n then .ok () else .error (.readOnlyVariable id phase)

/-- A fault unless there is a variable of a kind with a name. -/
def checkDeclared (kind : Namespace) (id : String) (store : Store) : Except Fault Unit :=
  match kind with
  | .response => (store.response id).map fun _ => ()
  | .outcome => (store.outcome id).map fun _ => ()
  | .template => (store.template id).map fun _ => ()

/-- A fault outside template processing (`require_phase`). -/
def requireTemplate (phase : Phase) (statement : String) : Except Fault Unit :=
  if phase = .template then .ok () else .error (.statementNotPermitted statement phase)

/-- What the lookup table of an outcome variable holds for a value. -/
def lookedUp (id : String) (source : Value) (store : Store) : Except Fault Value := do
  let o ← store.outcome id
  match o.lookupTable with
  | none => .error (.missingLookupTable id)
  | some table => table.resolve source

/-! ## Statements -/

variable {σ : Type}

/-- Whether a test holds. -/
def holds (env : Environment σ) (test : Expr) : Exec σ Bool := do
  let v ← Exec.eval env test
  Exec.read fun _ => truth v

mutual

/-- Runs a statement (`execute_statement`). -/
def execute (env : Environment σ) (phase : Phase) : Statement → Exec σ Signal
  | .condition first others otherwise => do
    match ← executeBranch env phase first with
    | some signal => pure signal
    | none =>
      match ← executeBranches env phase others with
      | some signal => pure signal
      | none => executeAll env phase otherwise
  | .assign kind id value => do
    Exec.read (checkDeclared kind id)
    Exec.read (checkWritable phase id)
    let v ← Exec.eval env value
    Exec.update fun store => store.setValue id v
    pure .proceed
  | .setCorrect id value => do
    Exec.read fun _ => requireTemplate phase "setCorrectResponse"
    Exec.read (checkDeclared .response id)
    let v ← Exec.eval env value
    Exec.update fun store => store.setCorrect id v
    pure .proceed
  | .setDefault id value => do
    Exec.read fun _ => requireTemplate phase "setDefaultValue"
    let v ← Exec.eval env value
    Exec.update fun store => store.setDefault id v
    pure .proceed
  | .reset id => do
    Exec.read (checkWritable phase id)
    Exec.update fun store => store.resetToDefault id
    pure .proceed
  | .lookupOutcome id source => do
    let v ← Exec.eval env source
    let w ← Exec.read (lookedUp id v)
    Exec.update fun store => store.setValue id w
    pure .proceed
  | .constraint test => do
    Exec.read fun _ => requireTemplate phase "templateConstraint"
    let b ← holds env test
    pure (if b then .proceed else .constraintFailed)
  | .exit target => pure (.exit target)
  | .fragment body => executeAll env phase body

/-- Runs statements in order, up to the first that signals more than `proceed`
(`execute_statements`). -/
def executeAll (env : Environment σ) (phase : Phase) : List Statement → Exec σ Signal
  | [] => pure .proceed
  | s :: rest => do
    match ← execute env phase s with
    | .proceed => executeAll env phase rest
    | signal => pure signal

/-- Runs a branch when its test holds; `none` when it does not. -/
def executeBranch (env : Environment σ) (phase : Phase) : Branch → Exec σ (Option Signal)
  | .mk test body => do
    if ← holds env test then
      let signal ← executeAll env phase body
      pure (some signal)
    else pure none

/-- Runs the first branch whose test holds; `none` when none does. -/
def executeBranches (env : Environment σ) (phase : Phase) :
    List Branch → Exec σ (Option Signal)
  | [] => pure none
  | b :: rest => do
    match ← executeBranch env phase b with
    | some signal => pure (some signal)
    | none => executeBranches env phase rest

end

/-- Runs a program. -/
def Program.run (env : Environment σ) (p : Program) : Exec σ Signal :=
  executeAll env p.phase p.statements

end Assessment
