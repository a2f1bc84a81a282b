import Assessment.Program.Template

/-!
# Items and tests

An item document declares variables and holds the programs of an item, a test document those of a
test: `ItemDocument` and `TestDocument`, with `process_item` and `process_test` over them.

* An item is processed in four steps: its store is made (`context`), its template program makes a
  variant (`instantiate`), the candidate's responses are bound (`bind_responses`), and its response
  program scores them (`process_responses`). Each step works on the store that the one before left.
* A test is processed by its outcome program alone, over a session (`process_outcomes`).
* `runFresh` is what both end with: the outcome variables go back to their defaults before the
  program runs, so that scoring an item twice scores it afresh.
* Responses are bound in the order of their names, each fitted to its variable; the first that does
  not fit ends the binding, with those before it bound.
-/

namespace Assessment

/-- An item. -/
structure ItemDocument where
  identifier : Option String
  responses : List (Declaration ResponseVariable)
  outcomes : List (Declaration OutcomeVariable)
  templates : List (Declaration TemplateVariable)
  templateProcessing : Option (List Statement)
  responseProcessing : Option (List Statement)

/-- A test. -/
structure TestDocument where
  identifier : Option String
  outcomes : List (Declaration OutcomeVariable)
  outcomeProcessing : Option (List Statement)

variable {σ : Type}

/-! ## Responses -/

/-- Gives a response variable the value that a JSON value holds for its signature. -/
def Store.bindResponse (s : Store) (id : String) (j : Json) : Except Fault Store := do
  let r ← s.response id
  let v ← Value.ofJson j r.signature.cardinality r.signature.baseType
  s.setValue id v

/-- Binds responses one after the other. -/
def bindAll : List (String × Json) → Exec σ Unit
  | [] => pure ()
  | (id, j) :: rest => do
    Exec.update fun s => s.bindResponse id j
    bindAll rest

/-- Binds a candidate's responses in the order of their names (`bind_responses`). -/
def bindResponses (responses : Table Json) : Exec σ Unit := bindAll responses.entries

/-- Gives every outcome variable its default, then runs the statements of a phase. -/
def runFresh (env : Environment σ) (phase : Phase) (statements : Option (List Statement)) :
    Exec σ Signal := do
  Exec.update fun s => .ok s.resetOutcomes
  match statements with
  | some body => (Program.mk phase body).run env
  | none => pure .proceed

/-! ## Items -/

/-- What processing an item gives. -/
structure ItemRun where
  store : Store
  /-- The variant made; `none` without a template program. -/
  variant : Option Variant
  signal : Signal
  diagnostics : List Diagnostic

namespace ItemDocument

/-- The store of an item before anything ran (`context`). -/
def store (d : ItemDocument) : Store :=
  let s := d.responses.foldl Store.declareResponse .builtins
  let s := d.outcomes.foldl Store.declareOutcome s
  d.templates.foldl Store.declareTemplate s

/-- Makes a variant of an item that has a template program (`ItemDocument::instantiate`). -/
def instantiate (d : ItemDocument) (env : Environment σ) (maxAttempts : Nat) :
    Exec σ (Option Variant) :=
  match d.templateProcessing with
  | some body => some <$> Assessment.instantiate env ⟨.template, body⟩ maxAttempts
  | none => pure none

/-- Scores the responses (`process_responses`). -/
def processResponses (d : ItemDocument) (env : Environment σ) : Exec σ Signal :=
  runFresh env .response d.responseProcessing

/-- Makes a variant, binds the responses and scores them. -/
def steps (d : ItemDocument) (env : Environment σ) (maxAttempts : Nat) (responses : Table Json) :
    Exec σ (Option Variant × Signal) := do
  let variant ← d.instantiate env maxAttempts
  bindResponses responses
  let signal ← d.processResponses env
  pure (variant, signal)

/-- Processes an item from its store on. -/
def process (d : ItemDocument) (random : RandomSource σ) (operators : Registry)
    (patterns : Pattern.Engine) (maxAttempts : Nat) (responses : Table Json) (source : σ) :
    Except Fault ItemRun :=
  let (r, stage) :=
    (d.steps ⟨random, operators, none, patterns⟩ maxAttempts responses).runOn
      ⟨d.store, .start source⟩
  r.map fun (variant, signal) => ⟨stage.store, variant, signal, stage.trail.diagnostics⟩

end ItemDocument

/-! ## Tests -/

/-- What processing a test gives. -/
structure TestRun where
  store : Store
  signal : Signal
  diagnostics : List Diagnostic

namespace TestDocument

/-- The store of a test before anything ran. -/
def store (d : TestDocument) : Store := d.outcomes.foldl Store.declareOutcome .empty

/-- Runs the outcome program (`process_outcomes`). -/
def processOutcomes (d : TestDocument) (env : Environment σ) : Exec σ Signal :=
  runFresh env .outcome d.outcomeProcessing

/-- Processes a test over a session. -/
def process (d : TestDocument) (session : TestSession) (random : RandomSource σ)
    (operators : Registry) (patterns : Pattern.Engine) (source : σ) : Except Fault TestRun :=
  let (r, stage) :=
    (d.processOutcomes ⟨random, operators, some session, patterns⟩).runOn ⟨d.store, .start source⟩
  r.map fun signal => ⟨stage.store, signal, stage.trail.diagnostics⟩

end TestDocument

end Assessment
