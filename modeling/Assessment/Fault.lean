import Assessment.Kind

/-!
# Faults: what is wrong with a program

The `EngineError` of the processor. A fault says that a program is malformed or does not fit its
variables (section B.7 of the specification). Conditions of the data alone (a NULL operand, a
division by zero, an index out of range) are no faults; they give NULL.

* Each constructor carries what its message quotes, and `Fault.message` holds the wording of all of
  them, so that a statement about a fault is one about its text as well.
* A failed constraint of a template is no fault either, but a signal (`Signal.constraintFailed`).
* The texts of other libraries stand in a fault as they are: the reason why a pattern is refused,
  and what the reader of JSON says of a base type that is none.

One more constructor stands for a run that breaks down in the middle of a calculation, as the
rounding of `round_to_binary` does for very many significant figures. Nothing handles it, so it ends
the run as a fault does.
-/

namespace Assessment

/-- A defect of a program or of what it is applied to. -/
inductive Fault where
  /-- A variable that is referred to is not declared. -/
  | undeclaredVariable (identifier : String)
  /-- A value's cardinality does not fit where it is used. -/
  | cardinalityMismatch (context expected got : String)
  /-- A value's base type does not fit where it is used. -/
  | baseTypeMismatch (context expected got : String)
  /-- A branch condition gave something other than a boolean. -/
  | nonBooleanCondition (got : String)
  /-- An operator on integers received something else. -/
  | integerRequired (operator got : String)
  /-- The elements of a container have different base types. -/
  | mixedBaseTypes (expected got : BaseType)
  /-- A statement wrote to a variable that its phase may not change. -/
  | readOnlyVariable (identifier : String) (phase : Phase)
  /-- A statement may not stand in the current phase. -/
  | statementNotPermitted (statement : String) (phase : Phase)
  /-- A response variable lacks the mapping that an expression asks for. -/
  | missingMapping (identifier kind : String)
  /-- An outcome variable lacks the table that a statement looks up. -/
  | missingLookupTable (identifier : String)
  /-- An expression on a test stands where there is no test session. -/
  | noTestSession (expression : String)
  /-- A text does not write a value of its base type. -/
  | invalidLiteral (baseType : BaseType) (literal : String)
  /-- An operator received an operand outside its contract. -/
  | invalidOperand (operator detail : String)
  /-- An attribute of an operator is malformed. -/
  | invalidAttribute (operator detail : String)
  /-- The places of a rounding left 32 bits. No defect of a program: the run breaks down. -/
  | breakdown
deriving DecidableEq, Repr

namespace Fault

/-- The wording of a fault. -/
def message : Fault → String
  | undeclaredVariable id => "undeclared variable: " ++ id
  | cardinalityMismatch context expected got =>
    "cardinality mismatch for " ++ context ++ ": expected " ++ expected ++ ", got " ++ got
  | baseTypeMismatch context expected got =>
    "base type mismatch for " ++ context ++ ": expected " ++ expected ++ ", got " ++ got
  | nonBooleanCondition got => "condition must evaluate to a single boolean, got " ++ got
  | integerRequired operator got =>
    "operator '" ++ operator ++ "' requires integer operands, got " ++ got
  | mixedBaseTypes expected got =>
    "container elements must share base type " ++ expected.name ++ ", found " ++ got.name
  | readOnlyVariable id phase =>
    "variable '" ++ id ++ "' is read-only during " ++ phase.name ++ " processing"
  | statementNotPermitted statement phase =>
    "'" ++ statement ++ "' is not permitted during " ++ phase.name ++ " processing"
  | missingMapping id kind => "response variable '" ++ id ++ "' has no " ++ kind
  | missingLookupTable id => "outcome variable '" ++ id ++ "' has no lookup table"
  | noTestSession expression => "'" ++ expression ++ "' requires a test session provider"
  | invalidLiteral baseType literal =>
    "invalid " ++ baseType.name ++ " literal: '" ++ literal ++ "'"
  | invalidOperand operator detail => "operator '" ++ operator ++ "': " ++ detail
  | invalidAttribute operator detail =>
    "invalid attribute on '" ++ operator ++ "': " ++ detail
  | breakdown => "attempt to subtract with overflow"

end Fault

end Assessment
