import Assessment.Text.Numeral

/-!
# Diagnostics: notes on degraded results

Some conditions are no faults, but an author needs to see them (`DiagnosticKind`): an operator that
is not known or that failed, where the expression gives NULL, and a template kept although its
constraint does not hold. They are recorded in the order in which they come up, on the trail of an
evaluation, and are reported next to the result or next to the fault.
-/

namespace Assessment

/-- A note recorded while a program runs. -/
inductive Diagnostic where
  /-- A custom operator is not registered; its value is NULL. -/
  | unresolvedOperator (operatorClass definition : Option String)
  /-- A custom operator reported a failure; its value is NULL. -/
  | operatorFailed (key failure : String)
  /-- The last variant of a template was kept with a failing constraint. -/
  | constraintUnsatisfied (attempts : Nat)
deriving DecidableEq, Repr

/-- The wording of a diagnostic. -/
def Diagnostic.message : Diagnostic → String
  | .unresolvedOperator c d =>
    "unresolved custom operator (class: " ++ c.getD "-" ++ ", definition: " ++ d.getD "-" ++ ")"
  | .operatorFailed key failure => "custom operator " ++ key ++ " failed: " ++ failure
  | .constraintUnsatisfied attempts =>
    "template constraint still failing after " ++ Text.integerText attempts
      ++ " attempts; last variant kept"

end Assessment
