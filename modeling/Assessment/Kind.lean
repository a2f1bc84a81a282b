/-!
# Kinds: base types, cardinalities and phases

The closed vocabularies of the data model (sections B.3 and B.4.2 of the specification): `BaseType`,
`Cardinality` and the `Phase` of a program.

* The base type of a variable says what its elements are, its cardinality how many there are and
  whether their order counts. Only records have no base type of their own.
* A phase is the stage of processing that a program belongs to. It decides what the program may
  write, which is `Phase.mayWrite` beside the running of programs.
* The name of each stands in documents, in messages and in the kinds of values that messages quote
  (`BaseType::name`, and the `Display` forms of the other two). `ofName?` takes a name back, and
  `ofName?_name` says that it does.
-/

namespace Assessment

/-- What a single value is. -/
inductive BaseType where
  | identifier
  | boolean
  | integer
  | float
  | string
  | duration
  | point
  | pair
  | directedPair
  | file
  | uri
deriving DecidableEq, Repr

/-- All base types. -/
def BaseType.all : List BaseType :=
  [.identifier, .boolean, .integer, .float, .string, .duration, .point, .pair, .directedPair,
    .file, .uri]

/-- The name of a base type. -/
def BaseType.name : BaseType → String
  | .identifier => "identifier"
  | .boolean => "boolean"
  | .integer => "integer"
  | .float => "float"
  | .string => "string"
  | .duration => "duration"
  | .point => "point"
  | .pair => "pair"
  | .directedPair => "directedPair"
  | .file => "file"
  | .uri => "uri"

/-- The base type of a name. -/
def BaseType.ofName? (s : String) : Option BaseType :=
  BaseType.all.find? fun t => t.name == s

theorem BaseType.ofName?_name (t : BaseType) : BaseType.ofName? t.name = some t := by
  cases t <;> decide

/-- The text of a base type that may be missing. -/
def BaseType.nameOrNone : Option BaseType → String
  | some t => t.name
  | none => "none"

/-- Whether a variable holds one value, a multiset, a sequence or a record. -/
inductive Cardinality where
  | single
  | multiple
  | ordered
  | record
deriving DecidableEq, Repr

/-- All cardinalities. -/
def Cardinality.all : List Cardinality := [.single, .multiple, .ordered, .record]

/-- The name of a cardinality. -/
def Cardinality.name : Cardinality → String
  | .single => "single"
  | .multiple => "multiple"
  | .ordered => "ordered"
  | .record => "record"

/-- The cardinality of a name. -/
def Cardinality.ofName? (s : String) : Option Cardinality :=
  Cardinality.all.find? fun c => c.name == s

theorem Cardinality.ofName?_name (c : Cardinality) : Cardinality.ofName? c.name = some c := by
  cases c <;> decide

/-- The stage of processing that a program belongs to. -/
inductive Phase where
  | response
  | outcome
  | template
deriving DecidableEq, Repr

/-- All phases. -/
def Phase.all : List Phase := [.response, .outcome, .template]

/-- The name of a phase. -/
def Phase.name : Phase → String
  | .response => "response"
  | .outcome => "outcome"
  | .template => "template"

/-- The phase of a name. -/
def Phase.ofName? (s : String) : Option Phase :=
  Phase.all.find? fun p => p.name == s

end Assessment
