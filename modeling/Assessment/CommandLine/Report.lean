import Assessment.CommandLine.Arguments
import Assessment.Document

/-!
# Reports

What a run prints: the signal, the values of the variables and the diagnostics, as lines of text or
as one JSON object. The kinds of variables stand under their titles, those without variables left
out, and every kind lists its variables by name.

A failure is reported in the same two formats, on the error stream, and a run that breaks down says
nothing in either. `Failure` has the texts: a file that cannot be read or is no document, a
configuration that allows no attempt, and a fault of the engine.
-/

namespace Assessment.CommandLine

/-- What a program leaves behind. -/
structure Output where
  status : Nat
  stdout : String
  stderr : String
deriving DecidableEq, Repr

/-! ## Failures -/

/-- Why a run fails. -/
inductive Failure where
  | unreadable (what path : String)
  | unparsable (what path : String)
  | noAttempts
  | fault (f : Fault)
deriving DecidableEq, Repr

/-- The wording of a failure. -/
def Failure.message : Failure → String
  | .unreadable what path => "error reading " ++ what ++ " '" ++ path ++ "'"
  | .unparsable what path => "error parsing " ++ what ++ " '" ++ path ++ "'"
  | .noAttempts => "error: template.max_attempts must be at least 1"
  | .fault f => "error: " ++ f.message

/-- The format that options ask for. -/
def Options.format (o : Options) : Format := o.output.getD .text

/-- The report of a failure. -/
def Failure.output (o : Options) (f : Failure) : Output :=
  let text := match o.format with
    | .text => f.message ++ "\n"
    | .json => (Json.obj [("error", .str f.message)]).compact ++ "\n"
  ⟨1, "", if o.quiet then "" else text⟩

/-- The output of a run that broke down, which no option changes. -/
def brokenDown : Output := ⟨101, "", Fault.breakdown.message ++ "\n"⟩

/-! ## Lines -/

/-- The lines of the variables of a kind; none without variables. -/
def groupLines (title : String) (values : Table Json) : List String :=
  if values.isEmpty then []
  else (title ++ ":") :: values.entries.map fun e => "  " ++ e.1 ++ " = " ++ e.2.compact

/-- The lines of diagnostics; none without any. -/
def diagnosticLines (ds : List Diagnostic) : List String :=
  if ds.isEmpty then []
  else (Text.integerText ds.length ++ " diagnostic(s):") :: ds.map fun d => "  " ++ d.message

/-- The line of a name that may be missing. -/
def titleLines (title : String) : Option String → List String
  | some id => [title ++ ": " ++ id]
  | none => []

/-- The line of a variant. -/
def variantLines : Option Variant → List String
  | some v =>
    ["Template: " ++ (if v.satisfied then "satisfied" else "unsatisfied") ++ " after "
      ++ Text.integerText v.attempts ++ " attempt(s)"]
  | none => []

/-! ## Objects -/

/-- A text that may be missing. -/
def textOrNull : Option String → Json
  | some s => .str s
  | none => .null

/-- The JSON form of diagnostics. -/
def diagnosticsToJson (ds : List Diagnostic) : Json := .arr (ds.map fun d => .str d.message)

/-- The JSON form of a variant. -/
def variantToJson : Option Variant → Json
  | some v => Json.ofFields [("attempts", .int v.attempts), ("satisfied", .bool v.satisfied)]
  | none => .null

/-! ## Runs -/

/-- The report of an item. -/
def itemReport (format : Format) (d : ItemDocument) (run : ItemRun) : String :=
  match format with
  | .text => joinLines (titleLines "Item" d.identifier ++ variantLines run.variant
      ++ ["Signal: " ++ run.signal.name]
      ++ groupLines "Templates" run.store.templateValues
      ++ groupLines "Responses" run.store.responseValues
      ++ groupLines "Outcomes" run.store.outcomeValues
      ++ diagnosticLines run.diagnostics)
  | .json =>
    (Json.ofFields
      [("item", textOrNull d.identifier), ("signal", .str run.signal.name),
        ("template", variantToJson run.variant), ("variables", run.store.valuesToJson),
        ("diagnostics", diagnosticsToJson run.diagnostics)]).pretty ++ "\n"

/-- The report of a test. -/
def testReport (format : Format) (d : TestDocument) (run : TestRun) : String :=
  match format with
  | .text => joinLines (titleLines "Test" d.identifier ++ ["Signal: " ++ run.signal.name]
      ++ groupLines "Outcomes" run.store.outcomeValues ++ diagnosticLines run.diagnostics)
  | .json =>
    (Json.ofFields
      [("test", textOrNull d.identifier), ("signal", .str run.signal.name),
        ("outcomes", Json.ofTable run.store.outcomeValues),
        ("diagnostics", diagnosticsToJson run.diagnostics)]).pretty ++ "\n"

/-- The output of a run that did not fail. -/
def reported (o : Options) (report : Format → String) : Output :=
  ⟨0, if o.quiet then "" else report o.format, ""⟩

end Assessment.CommandLine
