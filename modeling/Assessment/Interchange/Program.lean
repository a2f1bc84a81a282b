import Assessment.Interchange.Expression
import Assessment.Program.Basic

/-!
# Reading programs

A statement is an object whose `kind` names it. The three condition statements are one: a program's
phase alone says what its statements may do. An object for a program has a phase and statements, and
the programs inside item and test documents are lists of statements for the phase they stand under.
-/

namespace Assessment.Interchange

open Reading

/-- Reads a branch, given a rule for its statements. -/
def branch (statement : Decoder Statement) : Decoder Branch :=
  record ["condition", "statements"]
    (Branch.mk <$> required "condition" operand <*> list "statements" statement)

/-- Reads a condition statement. -/
def condition (statement : Decoder Statement) : Reading Statement :=
  (fun first others otherwise => Statement.condition first others (otherwise.getD []))
    <$> required "ifBranch" (branch statement) <*> list "elseIfBranches" (branch statement)
    <*> option "elseBranch" (listOf statement)

/-- Reads a statement on a variable and an expression. -/
def onVariable (f : String → Expr → Statement) : Reading Statement :=
  f <$> required "identifier" text <*> required "expression" operand

/-- A default to replace, or to go back to. -/
def defaultStatement (id : String) : Option Expr → Statement
  | some e => .setDefault id e
  | none => .reset id

/-- Reads a statement of a kind. -/
def statementOf (statement : Decoder Statement) (kind : String) : Option (Reading Statement) :=
  match kind with
  | "responseCondition" => some (condition statement)
  | "outcomeCondition" => some (condition statement)
  | "templateCondition" => some (condition statement)
  | "setOutcomeValue" => some (onVariable (.assign .outcome))
  | "setResponseValue" => some (onVariable (.assign .response))
  | "setTemplateValue" => some (onVariable (.assign .template))
  | "setCorrectResponse" => some (onVariable .setCorrect)
  | "setDefaultValue" => some (defaultStatement <$> required "identifier" text
      <*> option "expression" operand)
  | "lookupOutcomeValue" => some (onVariable .lookupOutcome)
  | "templateConstraint" => some (Statement.constraint <$> required "expression" operand)
  | "exitResponse" => some (pure (.exit .response))
  | "exitTemplate" => some (pure (.exit .template))
  | "exitTest" => some (pure (.exit .test))
  | "responseProcessingFragment" =>
    some (Statement.fragment <$> required "statements" (listOf statement))
  | _ => none

/-- The kinds of statements. -/
def statementKinds : List String :=
  ["responseCondition", "outcomeCondition", "templateCondition", "setOutcomeValue",
    "setResponseValue", "setTemplateValue", "setCorrectResponse", "setDefaultValue",
    "lookupOutcomeValue", "templateConstraint", "exitResponse", "exitTemplate", "exitTest",
    "responseProcessingFragment"]

/-- Reads a statement of a depth below the fuel that stands within another one. -/
def innerStatement : Nat → Decoder Statement
  | 0 => fun _ => .error .malformed
  | fuel + 1 => tagged "kind" (innerName statementKinds) (statementOf (innerStatement fuel))

/-- Reads a statement of a program's list. -/
def statement : Decoder Statement := fun j =>
  tagged "kind" text (statementOf (innerStatement (j.depth + 1))) j

/-- Reads a program. -/
def program : Decoder Program :=
  record ["phase", "statements"]
    (Program.mk <$> required "phase" (choice Phase.ofName?) <*> list "statements" statement)

end Assessment.Interchange
