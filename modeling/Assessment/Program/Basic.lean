import Assessment.Expr.Basic

/-!
# Programs

A program is a list of statements that belongs to a phase (`ProcessingProgram`, section B.4.2 of the
specification). A run of it ends with a signal (`ControlSignal`): `Signal.proceed` when all
statements ran, or what stopped it.

The kinds of `Statement` that do the same are one constructor: the three condition statements, which
differ in name alone, the three that set a variable of a kind (`assign`), the forms of
setDefaultValue with and without an expression (`setDefault` and `reset`), and the three exits.
-/

namespace Assessment

/-- What an exit statement leaves. -/
inductive Exit where
  | response
  | template
  | test
deriving DecidableEq, Repr

/-- How a run of statements ends. -/
inductive Signal where
  | proceed
  | exit (target : Exit)
  | constraintFailed
deriving DecidableEq, Repr

/-- The name of a signal. -/
def Signal.name : Signal → String
  | .proceed => "continue"
  | .exit .response => "exitResponse"
  | .exit .template => "exitTemplate"
  | .exit .test => "exitTest"
  | .constraintFailed => "constraintFailed"

mutual

/-- A statement. -/
inductive Statement where
  /-- Runs the first branch whose test holds, or else the statements after all branches. -/
  | condition (first : Branch) (others : List Branch) (otherwise : List Statement)
  /-- Gives a value to a variable of a kind. -/
  | assign (kind : Namespace) (identifier : String) (value : Expr)
  /-- Replaces a correct response. -/
  | setCorrect (identifier : String) (value : Expr)
  /-- Replaces a declared default. -/
  | setDefault (identifier : String) (value : Expr)
  /-- Gives a variable its declared default. -/
  | reset (identifier : String)
  /-- Gives an outcome variable what its lookup table holds for a value. -/
  | lookupOutcome (identifier : String) (source : Expr)
  /-- Rejects the variant of a template unless a condition holds. -/
  | constraint (test : Expr)
  | exit (target : Exit)
  /-- Statements in the place of one. -/
  | fragment (body : List Statement)

/-- A test with the statements to run when it holds. -/
inductive Branch where
  | mk (test : Expr) (body : List Statement)

end

/-- The statements of a phase. -/
structure Program where
  phase : Phase
  statements : List Statement

end Assessment
