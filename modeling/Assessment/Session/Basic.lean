import Assessment.Variable.Store

/-!
# Test sessions

A session lists what is known of each item of a test: the sections around it, its categories and
weights, how far the candidate came with it, and its variables (`ItemSession` in a
`StaticTestSession`).

* `ofStore` makes one of a store after processing (`from_context`): its responses, and then its
  outcomes, which take the place of responses of the same names.
* `isCorrect` is `is_correct`: an item with keyed responses is correct when each equals its key, and
  one without is when its `SCORE` is positive (section B.4.4 of the specification).
* A missing variable reads as NULL, a missing weight as one.
-/

namespace Assessment

/-- A variable of an item's result. -/
structure SessionVariable where
  signature : Signature
  value : Value
  /-- NULL for outcome variables and for responses without a key. -/
  correct : Value
  normalMinimum : Option Float
  normalMaximum : Option Float
deriving DecidableEq

/-- The result of one item. -/
structure ItemSession where
  identifier : String
  /-- The sections around the item, the outermost first. -/
  sections : List String
  categories : List String
  weights : Table Float
  selected : Bool
  presented : Bool
  responded : Bool
  results : Table SessionVariable
deriving DecidableEq

/-- The results of the items of a test, in the order of the test. -/
structure TestSession where
  items : List ItemSession
deriving DecidableEq

namespace ItemSession

/-- An item without variables that was selected, presented and answered. -/
def blank (identifier : String) : ItemSession :=
  ⟨identifier, [], [], .empty, true, true, true, .empty⟩

/-- The result of a response variable. -/
def ofResponse (v : ResponseVariable) : SessionVariable :=
  ⟨v.signature, v.value, v.correct, none, none⟩

/-- The result of an outcome variable. -/
def ofOutcome (v : OutcomeVariable) : SessionVariable :=
  ⟨v.signature, v.value, .null, v.normalMinimum, v.normalMaximum⟩

/-- The response and outcome variables of a store; of a shared name the outcome variable. -/
def resultsOfStore (s : Store) : Table SessionVariable :=
  s.outcomes.entries.foldl (fun t e => t.insert e.1 (ofOutcome e.2))
    (s.responses.map fun _ v => ofResponse v)

/-- The result of an item whose variables a store holds (`ItemSession::from_context`). -/
def ofStore (identifier : String) (s : Store) : ItemSession :=
  { blank identifier with results := resultsOfStore s }

/-- The current value of a variable, NULL without it (`ItemSession::value`). -/
def value (i : ItemSession) (id : String) : Value :=
  match i.results.get? id with
  | some v => v.value
  | none => .null

/-- The weight of a name, one without it (`ItemSession::weight`). -/
def weight (i : ItemSession) (id : String) : Float := (i.weights.get? id).getD 1.0

/-- The weight of an optional name. -/
def weightOf (i : ItemSession) : Option String → Float
  | some id => i.weight id
  | none => 1.0

/-- The variables with a correct response. -/
def keyed (i : ItemSession) : List SessionVariable :=
  i.results.values.filter fun v => !v.correct.isNull

/-- Whether a value is a single number above zero. -/
def isPositive : Value → Bool
  | .single s => match s.toFloat? with
    | some x => 0.0 < x
    | none => false
  | _ => false

/-- Whether the item is correct: every variable with a correct response holds it, and where no
variable has one, `SCORE` is above zero (`ItemSession::is_correct`). -/
def isCorrect (i : ItemSession) : Bool :=
  if i.keyed.isEmpty then isPositive (i.value "SCORE")
  else i.keyed.all fun v => v.value.same v.correct

end ItemSession

/-- The first item of a name. -/
def TestSession.item? (s : TestSession) (id : String) : Option ItemSession :=
  s.items.find? fun i => i.identifier == id

end Assessment
