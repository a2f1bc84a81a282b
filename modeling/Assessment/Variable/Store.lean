import Assessment.Variable.Basic

/-!
# The store of variables

A store holds response, outcome and template variables, each kind under names of its own: the
`VariableContext` (section B.3 of the specification). A name that several kinds share means the
response variable first, then the outcome variable, then the template variable: `Store.namespaceOf?`
(`namespace_of`) says which, and `slot?`, `setValue`, `setDefault` and `resetToDefault` follow it.
So a shared name cannot be written as an outcome variable, whatever the statement says of it.

* `setCorrect` belongs to response variables alone, `outcome` and `response` ask for a kind by name.
* `resetOutcomes` and `resetTemplates` give a whole kind its defaults.
* `builtins` is the store with the variables that every item has (`with_builtins`).
* `valuesToJson` is what reports show of a store (`variables_json`).
-/

namespace Assessment

/-- The kinds of variables. -/
inductive Namespace where
  | response
  | outcome
  | template
deriving DecidableEq, Repr

/-- The name of a kind of variables. -/
def Namespace.name : Namespace → String
  | .response => "response"
  | .outcome => "outcome"
  | .template => "template"

/-- The variables of one attempt at an item, or of one test. -/
structure Store where
  responses : Table ResponseVariable
  outcomes : Table OutcomeVariable
  templates : Table TemplateVariable
deriving DecidableEq

/-- The fault of a name that no variable has. -/
def undeclared (identifier : String) : Fault := .undeclaredVariable identifier

/-- The fault of a name that no variable of a kind has. -/
def undeclaredIn (n : Namespace) (identifier : String) : Fault :=
  .undeclaredVariable (identifier ++ " (" ++ n.name ++ " variable)")

namespace Store

/-- The store without variables. -/
def empty : Store := ⟨.empty, .empty, .empty⟩

/-! ## Declaring -/

/-- The store with a response variable (`declare_response`). -/
def declareResponse (s : Store) (d : Declaration ResponseVariable) : Store :=
  { s with responses := s.responses.insert d.identifier d.declared }

/-- The store with an outcome variable (`declare_outcome`). -/
def declareOutcome (s : Store) (d : Declaration OutcomeVariable) : Store :=
  { s with outcomes := s.outcomes.insert d.identifier d.declared }

/-- The store with a template variable (`declare_template`). -/
def declareTemplate (s : Store) (d : Declaration TemplateVariable) : Store :=
  { s with templates := s.templates.insert d.identifier d.declared }

/-- A response variable without value, key and mappings. -/
def plainResponse (signature : Signature) : ResponseVariable :=
  { Slot.ofDefault signature .null with correct := .null, mapping := none, areaMapping := none }

/-- An outcome variable with a default alone. -/
def plainOutcome (signature : Signature) (default : Value) : OutcomeVariable :=
  { Slot.ofDefault signature default with
    lookupTable := none, normalMinimum := none, normalMaximum := none }

/-- The store with the variables that every item has (`with_builtins`). -/
def builtins : Store :=
  let s := empty.declareResponse
    ⟨"numAttempts", plainResponse ⟨.single, some .integer⟩⟩
  let s := s.declareResponse ⟨"duration", plainResponse ⟨.single, some .duration⟩⟩
  s.declareOutcome
    ⟨"completionStatus",
      plainOutcome ⟨.single, some .identifier⟩ (.single (.identifier "not_attempted"))⟩

/-! ## Looking up -/

/-- The kind that a name means (`namespace_of`). -/
def namespaceOf? (s : Store) (id : String) : Option Namespace :=
  if s.responses.contains id then some .response
  else if s.outcomes.contains id then some .outcome
  else if s.templates.contains id then some .template
  else none

/-- Whether a name means a variable. -/
def isDeclared (s : Store) (id : String) : Bool := (s.namespaceOf? id).isSome

/-- The slot of the variable of a kind with a name. -/
def slotIn? (s : Store) (n : Namespace) (id : String) : Option Slot :=
  match n with
  | .response => (s.responses.get? id).map (·.toSlot)
  | .outcome => (s.outcomes.get? id).map (·.toSlot)
  | .template => (s.templates.get? id).map (·.toSlot)

/-- The slot of the variable that a name means. -/
def slot? (s : Store) (id : String) : Option Slot :=
  (s.namespaceOf? id).bind fun n => s.slotIn? n id

/-- The slot of the variable that a name means; a fault without one. -/
def slot (s : Store) (id : String) : Except Fault Slot :=
  match s.slot? id with
  | some slot => .ok slot
  | none => .error (undeclared id)

/-- The current value of the variable that a name means. -/
def value (s : Store) (id : String) : Except Fault Value := (s.slot id).map (·.value)

/-- The declared default of the variable that a name means. -/
def default (s : Store) (id : String) : Except Fault Value := (s.slot id).map (·.default)

/-- The response variable of a name. -/
def response (s : Store) (id : String) : Except Fault ResponseVariable :=
  match s.responses.get? id with
  | some v => .ok v
  | none => .error (undeclaredIn .response id)

/-- The outcome variable of a name. -/
def outcome (s : Store) (id : String) : Except Fault OutcomeVariable :=
  match s.outcomes.get? id with
  | some v => .ok v
  | none => .error (undeclaredIn .outcome id)

/-- The template variable of a name. -/
def template (s : Store) (id : String) : Except Fault TemplateVariable :=
  match s.templates.get? id with
  | some v => .ok v
  | none => .error (undeclaredIn .template id)

/-- The correct response of a response variable. -/
def correct (s : Store) (id : String) : Except Fault Value := (s.response id).map (·.correct)

/-! ## Writing -/

/-- Changes the slot of the variable of a kind with a name. -/
def modifyIn (s : Store) (n : Namespace) (id : String) (f : Slot → Slot) : Store :=
  match n with
  | .response =>
    { s with responses := s.responses.modify id fun v => { v with toSlot := f v.toSlot } }
  | .outcome =>
    { s with outcomes := s.outcomes.modify id fun v => { v with toSlot := f v.toSlot } }
  | .template =>
    { s with templates := s.templates.modify id fun v => { v with toSlot := f v.toSlot } }

/-- Changes the slot of the variable that a name means. -/
def modify (s : Store) (id : String) (f : Slot → Slot) : Store :=
  match s.namespaceOf? id with
  | some n => s.modifyIn n id f
  | none => s

/-- Gives a value to the variable that a name means (`set_value`). -/
def setValue (s : Store) (id : String) (v : Value) : Except Fault Store := do
  let slot ← s.slot id
  let w ← conform id v slot.signature
  pure (s.modify id fun slot => { slot with value := w })

/-- Replaces the declared default of the variable that a name means (`set_default_value`). -/
def setDefault (s : Store) (id : String) (v : Value) : Except Fault Store := do
  let slot ← s.slot id
  let w ← conform id v slot.signature
  pure (s.modify id fun slot => { slot with default := w })

/-- Replaces the correct response of a response variable (`set_correct_response`). -/
def setCorrect (s : Store) (id : String) (v : Value) : Except Fault Store := do
  let r ← s.response id
  let w ← conform id v r.signature
  pure { s with responses := s.responses.modify id fun r => { r with correct := w } }

/-- Gives its declared default to the variable that a name means (`reset_to_default`). -/
def resetToDefault (s : Store) (id : String) : Except Fault Store := do
  let v ← s.default id
  s.setValue id v

/-- Gives every outcome variable its declared default (`reset_outcomes`). -/
def resetOutcomes (s : Store) : Store :=
  { s with outcomes := s.outcomes.map fun _ v => { v with toSlot := v.toSlot.reset } }

/-- Gives every template variable its declared default (`reset_templates`). -/
def resetTemplates (s : Store) : Store :=
  { s with templates := s.templates.map fun _ v => { v with toSlot := v.toSlot.reset } }

/-! ## JSON -/

/-- The current values of the response variables. -/
def responseValues (s : Store) : Table Json := s.responses.map fun _ v => v.value.toJson

/-- The current values of the outcome variables. -/
def outcomeValues (s : Store) : Table Json := s.outcomes.map fun _ v => v.value.toJson

/-- The current values of the template variables. -/
def templateValues (s : Store) : Table Json := s.templates.map fun _ v => v.value.toJson

/-- The current values of all variables, by kind (`variables_json`). -/
def valuesToJson (s : Store) : Json :=
  Json.ofFields
    [("responses", Json.ofTable s.responseValues), ("outcomes", Json.ofTable s.outcomeValues),
      ("templates", Json.ofTable s.templateValues)]

end Store

end Assessment
