import Assessment.Attribute
import Assessment.Lookup
import Assessment.Numeric.Function
import Assessment.Numeric.Statistic
import Assessment.Numeric.Tolerance
import Assessment.Operator
import Assessment.Session.Aggregate

/-!
# Expressions

The operators of the language by how they take their operands: one, two, or a list of them, all
evaluated before the operator is applied. The others evaluate in ways of their own: the logical ones
stop early, a repetition looks at its count first, and a draw changes the random source. Together
they are `Expr` with the closed set of operators of section B.4.1 of the specification.

Operators that do the same up to a parameter are one constructor: the four comparisons, the five
statistics, the extremes, the bounds and the counts of a test. `name` gives the name that each has
in documents and messages (`Expr::kind`).
-/

namespace Assessment

open Numeric

/-- A number with a name. -/
inductive Constant where
  | pi
  | e
deriving DecidableEq, Repr

/-- All constants. -/
def Constant.all : List Constant := [.pi, .e]

/-- The name of a constant. -/
def Constant.name : Constant → String
  | .pi => "pi"
  | .e => "e"

/-- The constant of a name. -/
def Constant.ofName? (s : String) : Option Constant :=
  Constant.all.find? fun c => c.name == s

/-- The number that a constant names. -/
def Constant.value : Constant → Float
  | .pi => Numeric.pi
  | .e => Numeric.e

/-- What an expression asks of a test. -/
inductive SessionQuery where
  | values (identifier : String) (baseType : Option BaseType) (weight : Option String)
  | bounds (bound : Bound) (identifier : String) (weight : Option String)
  | count (what : ItemCount)
deriving DecidableEq, Repr

/-- The name of a query in programs. -/
def SessionQuery.name : SessionQuery → String
  | .values _ _ _ => "testVariables"
  | .bounds .minimum _ _ => "outcomeMinimum"
  | .bounds .maximum _ _ => "outcomeMaximum"
  | .count .correct => "numberCorrect"
  | .count .incorrect => "numberIncorrect"
  | .count .presented => "numberPresented"
  | .count .responded => "numberResponded"
  | .count .selected => "numberSelected"

/-- The operators on one operand. -/
inductive UnaryOp where
  | containerSize
  | isNull
  | index (n : IntegerAttribute)
  | fieldValue (name : String)
  | not
  | patternMatch (pattern : String)
  | inside (shape : Shape) (coords : List Float)
  | truncate
  | round
  | roundTo (mode : RoundingMode) (figures : IntegerAttribute)
  | integerToFloat
  | statistic (s : Statistic)
deriving DecidableEq

/-- The name of an operator in programs. -/
def UnaryOp.name : UnaryOp → String
  | .containerSize => "containerSize"
  | .isNull => "isNull"
  | .index _ => "index"
  | .fieldValue _ => "fieldValue"
  | .not => "not"
  | .patternMatch _ => "patternMatch"
  | .inside _ _ => "inside"
  | .truncate => "truncate"
  | .round => "round"
  | .roundTo _ _ => "roundTo"
  | .integerToFloat => "integerToFloat"
  | .statistic _ => "statsOperator"

/-- The comparisons of numbers. -/
inductive Comparison where
  | lt
  | gt
  | lte
  | gte
deriving DecidableEq, Repr

/-- The operators on two operands. -/
inductive BinaryOp where
  | member
  | delete
  | contains
  | matching
  | stringMatch (caseSensitive substring : Bool)
  | substring (caseSensitive : Bool)
  | equal (mode : ToleranceMode) (tolerance : List FloatAttribute)
      (includeLower includeUpper : Bool)
  | equalRounded (mode : RoundingMode) (figures : IntegerAttribute)
  | compare (c : Comparison)
  | durationLT
  | durationGTE
  | subtract
  | divide
  | power
  | integerDivide
  | integerModulus
deriving DecidableEq

/-- The name of an operator in programs. -/
def BinaryOp.name : BinaryOp → String
  | .member => "member"
  | .delete => "delete"
  | .contains => "contains"
  | .matching => "match"
  | .stringMatch _ _ => "stringMatch"
  | .substring _ => "substring"
  | .equal _ _ _ _ => "equal"
  | .equalRounded _ _ => "equalRounded"
  | .compare .lt => "lt"
  | .compare .gt => "gt"
  | .compare .lte => "lte"
  | .compare .gte => "gte"
  | .durationLT => "durationLT"
  | .durationGTE => "durationGTE"
  | .subtract => "subtract"
  | .divide => "divide"
  | .power => "power"
  | .integerDivide => "integerDivide"
  | .integerModulus => "integerModulus"

/-- The operators on a list of operands. -/
inductive VariadicOp where
  | multiple
  | ordered
  | sum
  | product
  | max
  | min
  | gcd
  | lcm
deriving DecidableEq, Repr

/-- The name of an operator in programs. -/
def VariadicOp.name : VariadicOp → String
  | .multiple => "multiple"
  | .ordered => "ordered"
  | .sum => "sum"
  | .product => "product"
  | .max => "max"
  | .min => "min"
  | .gcd => "gcd"
  | .lcm => "lcm"

/-- Whether all or any of several conditions are asked for. -/
inductive Junction where
  | all
  | any
deriving DecidableEq, Repr

/-- The name of a junction in programs. -/
def Junction.name : Junction → String
  | .all => "and"
  | .any => "or"

/-- The truth value that decides a junction as soon as an operand has it. -/
def Junction.decisive : Junction → Bool
  | .all => false
  | .any => true

/-- An expression. -/
inductive Expr where
  | literal (s : Scalar)
  | null
  | constant (c : Constant)
  | variable (identifier : String) (weight : Option String)
  | correct (identifier : String)
  | default (identifier : String)
  | mapResponse (identifier : String)
  | mapResponsePoint (identifier : String)
  | randomInteger (min max step : IntegerAttribute)
  | randomFloat (min max : FloatAttribute)
  | lookup (table : LookupTable) (source : Expr)
  | session (query : SessionQuery) (filter : ItemFilter)
  | random (operand : Expr)
  | unary (op : UnaryOp) (operand : Expr)
  | binary (op : BinaryOp) (left right : Expr)
  | variadic (op : VariadicOp) (operands : List Expr)
  | repetition (count : IntegerAttribute) (operands : List Expr)
  | junction (j : Junction) (operands : List Expr)
  | anyN (min max : IntegerAttribute) (operands : List Expr)
  | function (f : Function) (operands : List Expr)
  | custom (key : OperatorKey) (operands : List Expr)

end Assessment
