import Assessment.CommandLine.Help
import Assessment.CommandLine.Report
import Assessment.Configuration.Toml
import Assessment.Interchange.Document

/-!
# Running a command

A command reads its configuration first, then its documents, then runs: `load_config`, and one of
the two commands item and test (section B.6 of the specification). Files are given as a function
from paths to texts. A failure ends the run with status one, a command line that is not understood
with status two. A run that breaks down ends with the status of a program that is broken off.

The run has no custom operators, and draws from the configured seed, or from one that is chosen for
it.
-/

namespace Assessment.CommandLine

/-- The texts of files by their paths. -/
abbrev Files := String → Option String

/-- A file, read by a rule. -/
def load {α : Type} (files : Files) (what path : String) (read : String → Option α) :
    Except Failure α :=
  match files path with
  | none => .error (.unreadable what path)
  | some text =>
    match read text with
    | none => .error (.unparsable what path)
    | some a => .ok a

/-- A JSON document, read by a rule. -/
def loadJson {α : Type} (files : Files) (what path : String) (d : Interchange.Decoder α) :
    Except Failure α :=
  load files what path fun text =>
    match (Json.parse? text).map d with
    | some (.ok a) => some a
    | _ => none

/-- The configuration that options name, which allows one attempt at least (`load_config`). -/
def loadConfiguration (files : Files) (o : Options) : Except Failure Configuration := do
  let c ← match o.config with
    | none => pure Configuration.default
    | some path => do
      let c ← load files "config" path Configuration.ofToml?
      if c.maxAttempts = 0 then .error .noAttempts else pure c
  pure { c with seed := o.seed <|> c.seed }

/-- The start of the random source: the configured seed, or a chosen one. -/
def sourceOf (c : Configuration) (chosen : UInt64) : UInt64 :=
  match c.seed with
  | some n => n.toUInt64
  | none => chosen

/-- The result of a run, with its faults as failures. -/
def orFailure {α : Type} : Except Fault α → Except Failure α
  | .ok a => .ok a
  | .error f => .error (.fault f)

/-- The report of a command. -/
def runCommand (files : Files) (chosen : UInt64) (o : Options) (command : Command) :
    Except Failure (Format → String) := do
  let c ← loadConfiguration files o
  match command with
  | .item file responses => do
    let d ← loadJson files "item" file Interchange.itemDocument
    let answers ← match responses with
      | some path => loadJson files "responses" path Interchange.responses
      | none => pure .empty
    let run ← orFailure
      (d.process .seeded .empty .builtin c.maxAttempts answers (sourceOf c chosen))
    pure fun format => itemReport format d run
  | .test file session => do
    let d ← loadJson files "test" file Interchange.testDocument
    let s ← loadJson files "session" session Interchange.testSession
    let run ← orFailure (d.process s .seeded .empty .builtin (sourceOf c chosen))
    pure fun format => testReport format d run

/-- What a request gives. -/
def Request.output (files : Files) (chosen : UInt64) : Request → Output
  | .help topic => ⟨0, helpText topic, ""⟩
  | .version => ⟨0, versionText, ""⟩
  | .run o command =>
    match runCommand files chosen o command with
    | .ok report => reported o report
    | .error (.fault .breakdown) => brokenDown
    | .error f => f.output o

/-- What is said of a command line that is not understood. -/
def usageText : String := "error: the command line is not understood\n\n" ++ helpText .program

/-- What a command line gives. -/
def run (files : Files) (chosen : UInt64) (args : List String) : Output :=
  match readArguments args with
  | some request => request.output files chosen
  | none => ⟨2, "", usageText⟩

/-- The files that a request reads. -/
def Request.paths : Request → List String
  | .run o command =>
    o.config.toList ++ match command with
      | .item file responses => file :: responses.toList
      | .test file session => [file, session]
  | _ => []

end Assessment.CommandLine
