import Assessment.Expr.Basic
import Assessment.Interchange.Tables

/-!
# Reading expressions

An expression is an object whose `kind` names its operator. A single operand stands in `expression`,
several stand in `expressions`, and the other fields are attributes, with the defaults of section
B.4.1 of the specification.

The operators are read in three groups, by how they take their operands: `leaf`, `special` and
`applied`. The depth of the JSON value bounds the recursion, so no expression is cut off.
-/

namespace Assessment.Interchange

open Reading

/-! ## Attributes -/

/-- Reads the name of a base type. -/
def baseType : Decoder BaseType := innerChoice BaseType.ofName?

/-- Reads the choice of items of a query. -/
def itemFilter : Reading ItemFilter :=
  ItemFilter.mk <$> option "sectionIdentifier" text <*> list "includeCategory" text
    <*> list "excludeCategory" text

/-- Reads a rounding mode. -/
def roundingMode : Reading Numeric.RoundingMode :=
  optional "roundingMode" .significantFigures (innerChoice Numeric.RoundingMode.ofName?)

/-- Reads a count of figures. -/
def figures : Reading IntegerAttribute := required "figures" integerAttribute

/-! ## Operators -/

/-- The operators on one operand without attributes. -/
def plainUnary : List UnaryOp :=
  [.containerSize, .isNull, .not, .truncate, .round, .integerToFloat]

/-- The operators on two operands without attributes. -/
def plainBinary : List BinaryOp :=
  [.member, .delete, .contains, .matching, .compare .lt, .compare .gt, .compare .lte, .compare .gte,
    .durationLT, .durationGTE, .subtract, .divide, .power, .integerDivide, .integerModulus]

/-- The operators that need a list of operands. -/
def plainVariadic : List VariadicOp := [.sum, .product, .max, .min, .gcd, .lcm]

/-- The operators that build a container. -/
def builders : List VariadicOp := [.multiple, .ordered]

/-- The counts of items. -/
def counts : List SessionQuery :=
  [.count .correct, .count .incorrect, .count .presented, .count .responded, .count .selected]

/-- Reads the attributes of an operator on one operand. -/
def unaryOp (kind : String) : Option (Reading UnaryOp) :=
  match kind with
  | "index" => some (UnaryOp.index <$> required "n" integerAttribute)
  | "fieldValue" => some (UnaryOp.fieldValue <$> required "fieldIdentifier" text)
  | "patternMatch" => some (UnaryOp.patternMatch <$> required "pattern" text)
  | "inside" => some (UnaryOp.inside <$> required "shape" (innerChoice Shape.ofName?)
      <*> optional "coords" [] coordinates)
  | "roundTo" => some (UnaryOp.roundTo <$> roundingMode <*> figures)
  | "statsOperator" =>
    some (UnaryOp.statistic <$> required "name" (innerChoice Numeric.Statistic.ofName?))
  | _ => (plainUnary.find? fun op => op.name == kind).map pure

/-- Reads the attributes of an operator on two operands. -/
def binaryOp (kind : String) : Option (Reading BinaryOp) :=
  match kind with
  | "stringMatch" => some (BinaryOp.stringMatch <$> required "caseSensitive" bool
      <*> optional "substring" false bool)
  | "substring" => some (BinaryOp.substring <$> optional "caseSensitive" true bool)
  | "equal" => some (BinaryOp.equal
      <$> optional "toleranceMode" .exact (innerChoice Numeric.ToleranceMode.ofName?)
      <*> list "tolerance" floatAttribute <*> optional "includeLowerBound" true bool
      <*> optional "includeUpperBound" true bool)
  | "equalRounded" => some (BinaryOp.equalRounded <$> roundingMode <*> figures)
  | _ => (plainBinary.find? fun op => op.name == kind).map pure

/-- Reads a query to the test. -/
def sessionQuery (kind : String) : Option (Reading SessionQuery) :=
  match kind with
  | "testVariables" => some (SessionQuery.values <$> required "variableIdentifier" text
      <*> option "baseType" baseType <*> option "weightIdentifier" text)
  | "outcomeMinimum" => some (SessionQuery.bounds .minimum
      <$> required "outcomeIdentifier" text <*> option "weightIdentifier" text)
  | "outcomeMaximum" => some (SessionQuery.bounds .maximum
      <$> required "outcomeIdentifier" text <*> option "weightIdentifier" text)
  | _ => (counts.find? fun q => q.name == kind).map pure

/-! ## Expressions -/

/-- Reads an expression without operands. -/
def leaf (kind : String) : Option (Reading Expr) :=
  match kind with
  | "baseValue" => some ((Prod.mk <$> required "baseType" baseType
      <*> required "value" raw).andThen fun (t, j) => orFault ((Scalar.ofJson t j).map .literal))
  | "null" => some (pure .null)
  | "mathConstant" => some (Expr.constant <$> required "name" (innerChoice Constant.ofName?))
  | "variable" => some (Expr.variable <$> required "identifier" text
      <*> option "weightIdentifier" text)
  | "correct" => some (Expr.correct <$> required "identifier" text)
  | "default" => some (Expr.default <$> required "identifier" text)
  | "mapResponse" => some (Expr.mapResponse <$> required "identifier" text)
  | "mapResponsePoint" => some (Expr.mapResponsePoint <$> required "identifier" text)
  | "randomInteger" => some (Expr.randomInteger <$> optional "min" (.value 0) integerAttribute
      <*> required "max" integerAttribute <*> optional "step" (.value 1) integerAttribute)
  | "randomFloat" => some (Expr.randomFloat <$> optional "min" (.value 0.0) floatAttribute
      <*> required "max" floatAttribute)
  | _ => (sessionQuery kind).map fun q => Expr.session <$> q <*> itemFilter

/-- Reads an expression with operands of its own way of evaluation. -/
def special (operand : Decoder Expr) (kind : String) : Option (Reading Expr) :=
  match kind with
  | "lookupTable" => some (((fun e t d => (e, t, d)) <$> required "expression" operand
      <*> required "baseType" baseType <*> required "table" innerLookupDraft).andThen
        fun (e, t, d) => orFault ((d.ofType t).map fun table => .lookup table e))
  | "random" => some (Expr.random <$> required "expression" operand)
  | "repeat" => some (Expr.repetition <$> required "numberRepeats" integerAttribute
      <*> required "expressions" (listOf operand))
  | "and" => some (Expr.junction .all <$> required "expressions" (listOf operand))
  | "or" => some (Expr.junction .any <$> required "expressions" (listOf operand))
  | "anyN" => some (Expr.anyN <$> required "min" integerAttribute
      <*> required "max" integerAttribute <*> required "expressions" (listOf operand))
  | "mathOperator" => some (Expr.function <$> required "name" (innerChoice Numeric.Function.ofName?)
      <*> required "expressions" (listOf operand))
  | "customOperator" => some (Expr.custom
      <$> (OperatorKey.mk <$> option "class" text <*> option "definition" text)
      <*> list "expressions" operand)
  | _ => none

/-- Reads an expression whose operands are evaluated before its operator is applied. -/
def applied (operand : Decoder Expr) (kind : String) : Option (Reading Expr) :=
  match unaryOp kind with
  | some op => some (Expr.unary <$> op <*> required "expression" operand)
  | none =>
    match binaryOp kind with
    | some op => some ((fun op (operands : Expr × Expr) => Expr.binary op operands.1 operands.2)
        <$> op <*> required "expressions" (pairOf operand))
    | none =>
      match plainVariadic.find? fun op => op.name == kind with
      | some op => some (Expr.variadic op <$> required "expressions" (listOf operand))
      | none =>
        (builders.find? fun op => op.name == kind).map fun op =>
          Expr.variadic op <$> list "expressions" operand

/-- Reads an expression of a kind. -/
def expressionOf (operand : Decoder Expr) (kind : String) : Option (Reading Expr) :=
  leaf kind <|> special operand kind <|> applied operand kind

/-- The kinds of expressions. -/
def expressionKinds : List String :=
  ["baseValue", "variable", "correct", "default", "null", "mathConstant", "mapResponse",
    "mapResponsePoint", "randomInteger", "randomFloat", "lookupTable", "testVariables",
    "outcomeMinimum", "outcomeMaximum", "numberCorrect", "numberIncorrect", "numberPresented",
    "numberResponded", "numberSelected", "multiple", "ordered", "containerSize", "isNull", "index",
    "fieldValue", "random", "member", "delete", "contains", "repeat", "not", "and", "or", "anyN",
    "match", "stringMatch", "substring", "patternMatch", "equal", "equalRounded", "inside", "lt",
    "gt", "lte", "gte", "durationLT", "durationGTE", "sum", "product", "subtract", "divide", "power",
    "integerDivide", "integerModulus", "truncate", "round", "roundTo", "integerToFloat", "max",
    "min", "gcd", "lcm", "statsOperator", "mathOperator", "customOperator"]

/-- Reads an operand of a depth below the fuel. -/
def operandWithin : Nat → Decoder Expr
  | 0 => fun _ => .error .malformed
  | fuel + 1 => tagged "kind" (innerName expressionKinds) (expressionOf (operandWithin fuel))

/-- Reads an expression within another one or within a statement. -/
def operand : Decoder Expr := fun j => operandWithin (j.depth + 1) j

/-- Reads an expression that stands alone. -/
def expression : Decoder Expr := fun j =>
  tagged "kind" text (expressionOf (operandWithin (j.depth + 1))) j

end Assessment.Interchange
