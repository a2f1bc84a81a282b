import Assessment.Expr.Basic

/-!
# Views of operands

What the operators ask of their operands: a number, an integer, a boolean, a text, a container. Each
view is a fault that names the operator where the operand is something else (`number`, `integer`,
`boolean`, `string`, `duration`, `container`). Attributes are resolved here too (`int_attr`,
`float_attr`, `pattern_attr`); `none` means that the variable they name counts as NULL.

* `Number` is `Num`: an integer or a float. Two integers are compared as integers, any other two as
  doubles.
* `numbersOf` takes a list of operands apart into its numbers, containers included; one operand that
  counts as NULL makes it none (`numbers`).
* `checkFigures` is `check_figures`, and `Number.rounded` the call of `round_to` behind it, whose
  overflow is the fault `breakdown`.
-/

namespace Assessment

open Numeric

/-- A number as an operand holds it. -/
inductive Number where
  | integer (n : Int64)
  | float (x : Float)
deriving DecidableEq

namespace Number

/-- The double of a number. -/
def toFloat : Number → Float
  | integer n => Numeric.toFloat n
  | float x => x

/-- The order of two doubles; none with NaN. -/
def compareFloats? (x y : Float) : Option Ordering :=
  if x < y then some .lt else if x == y then some .eq else if y < x then some .gt else none

/-- The order of two numbers: that of the integers when both are, else that of the doubles
(`Num::cmp`). -/
def compare? : Number → Number → Option Ordering
  | integer a, integer b =>
    some (if a.toInt < b.toInt then .lt else if b.toInt < a.toInt then .gt else .eq)
  | a, b => compareFloats? a.toFloat b.toFloat

/-- The integer of a number that is one. -/
def integer? : Number → Option Int64
  | integer n => some n
  | float _ => none

end Number

/-- The integers of numbers that all are (`all_ints`). -/
def allIntegers? (ns : List Number) : Option (List Int64) := ns.mapM Number.integer?

/-- The number that a scalar holds (`scalar_number`). -/
def numberOfScalar (op : String) (s : Scalar) : Except Fault Number :=
  match s with
  | .integer n => .ok (.integer n)
  | .float x => .ok (.float x)
  | s => .error (.invalidOperand op ("expected integer or float, got " ++ s.baseType.name))

/-- The single number that a value holds (`number`). -/
def numberOf (op : String) (v : Value) : Except Fault Number :=
  match v with
  | .single s => numberOfScalar op s
  | v => .error (.invalidOperand op ("expected a single number, got " ++ v.describe))

/-- The numbers of scalars. -/
def numbersOfScalars (op : String) : List Scalar → Except Fault (List Number)
  | [] => .ok []
  | s :: rest => do
    let n ← numberOfScalar op s
    let ns ← numbersOfScalars op rest
    pure (n :: ns)

/-- The numbers of one operand, several in a container. -/
def numbersOfValue (op : String) (v : Value) : Except Fault (List Number) :=
  match v with
  | .single s => numbersOfScalars op [s]
  | .multiple c | .ordered c => numbersOfScalars op c.items
  | v => .error (.cardinalityMismatch op "single, multiple or ordered" v.describe)

/-- The numbers of operands, one after the other. -/
def numbersOfValues (op : String) : List Value → Except Fault (List Number)
  | [] => .ok []
  | v :: rest => do
    let ns ← numbersOfValue op v
    let more ← numbersOfValues op rest
    pure (ns ++ more)

/-- The numbers of operands; `none` without operands and when one counts as NULL (`numbers`). -/
def numbersOf (op : String) (vs : List Value) : Except Fault (Option (List Number)) :=
  if vs.isEmpty || vs.any Value.isNull then .ok none
  else (numbersOfValues op vs).map some

/-- The single integer that a value holds (`integer`). -/
def integerOf (op : String) (v : Value) : Except Fault Int64 :=
  match v with
  | .single (.integer n) => .ok n
  | v => .error (.integerRequired op v.describe)

/-- The integer that a scalar holds. -/
def integerOfScalar? : Scalar → Option Int64
  | .integer n => some n
  | _ => none

/-- The integers of one operand, several in a container. -/
def integersOfValue (op : String) (v : Value) : Except Fault (List Int64) :=
  match v with
  | .multiple c | .ordered c =>
    if c.baseType = .integer then .ok (c.items.filterMap integerOfScalar?)
    else .error (.integerRequired op v.describe)
  | v => (integerOf op v).map fun n => [n]

/-- The integers of operands, one after the other. -/
def integersOfValues (op : String) : List Value → Except Fault (List Int64)
  | [] => .ok []
  | v :: rest => do
    let ns ← integersOfValue op v
    let more ← integersOfValues op rest
    pure (ns ++ more)

/-- The integers of operands; `none` without operands and when one counts as NULL (`integers`). -/
def integersOf (op : String) (vs : List Value) : Except Fault (Option (List Int64)) :=
  if vs.isEmpty || vs.any Value.isNull then .ok none
  else (integersOfValues op vs).map some

/-- The single boolean that a value holds (`boolean`). -/
def booleanOf (op : String) (v : Value) : Except Fault Bool :=
  match v with
  | .single (.boolean b) => .ok b
  | v => .error (.invalidOperand op ("expected a single boolean, got " ++ v.describe))

/-- The single text that a value holds (`string`). -/
def stringOf (op : String) (v : Value) : Except Fault String :=
  match v with
  | .single (.string s) => .ok s
  | v => .error (.invalidOperand op ("expected a single string, got " ++ v.describe))

/-- The single duration that a value holds (`duration`). -/
def durationOf (op : String) (v : Value) : Except Fault Float :=
  match v with
  | .single (.duration x) => .ok x
  | v => .error (.invalidOperand op ("expected a single duration, got " ++ v.describe))

/-- The single scalar that a value holds. -/
def scalarOf (op : String) (v : Value) : Except Fault Scalar :=
  match v with
  | .single s => .ok s
  | v => .error (.cardinalityMismatch op "single" v.describe)

/-- The container that a value holds (`container`). -/
def containerOf (op : String) (v : Value) : Except Fault Container :=
  match v with
  | .multiple c | .ordered c => .ok c
  | v => .error (.cardinalityMismatch op "multiple or ordered" v.describe)

/-- A fault unless two base types are the same (`same_base_type`). -/
def requireSameBaseType (op : String) (expected got : Option BaseType) : Except Fault Unit :=
  if expected = got then .ok ()
  else .error
    (.baseTypeMismatch op (BaseType.nameOrNone expected) (BaseType.nameOrNone got))

/-! ## Attributes -/

/-- The integer of an attribute (`int_attr`). -/
def IntegerAttribute.resolve (op : String) (store : Store) (a : IntegerAttribute) :
    Except Fault (Option Int64) :=
  match a with
  | .value n => .ok (some n)
  | .variable id => do
    let v ← store.value id
    if v.isNull then pure none
    else match v with
      | .single (.integer n) => pure (some n)
      | v => .error (.integerRequired op (v.describe ++ " from '" ++ id ++ "'"))

/-- The number of an attribute (`float_attr`). -/
def FloatAttribute.resolve (op : String) (store : Store) (a : FloatAttribute) :
    Except Fault (Option Float) :=
  match a with
  | .value x => .ok (some x)
  | .variable id => do
    let v ← store.value id
    if v.isNull then pure none
    else match v with
      | .single s =>
        match s.toFloat? with
        | some x => pure (some x)
        | none =>
          .error (.invalidOperand op
            ("attribute '" ++ id ++ "' is " ++ s.baseType.name ++ ", not numeric"))
      | v =>
        .error (.invalidOperand op
          ("attribute '" ++ id ++ "' is " ++ v.describe ++ ", not a single number"))

/-- The variable that a pattern names in braces, when there is one. -/
def patternReference? (store : Store) (pattern : String) : Option String :=
  ((insideBraces? pattern.toList).map String.ofList).filter fun id => store.isDeclared id

/-- The pattern of an attribute: the text of the variable it names in braces, or its own
(`pattern_attr`). -/
def resolvePattern (store : Store) (pattern : String) : Except Fault (Option String) :=
  match patternReference? store pattern with
  | some id => do
    let v ← store.value id
    if v.isNull then pure none
    else do
      let s ← stringOf "patternMatch" v
      pure (some s)
  | none => .ok (some pattern)

/-- A fault when a count of figures is too small for its mode (`check_figures`). -/
def checkFigures (op : String) (mode : RoundingMode) (figures : Int64) : Except Fault Unit :=
  if figures.toInt < mode.least then
    .error (.invalidAttribute op
      (mode.name ++ " needs figures >= " ++ Text.integerText mode.least ++ ", got "
        ++ Text.integerText figures.toInt))
  else .ok ()

/-! ## Rounding -/

/-- A number rounded to figures; `none` when it cannot be rounded. The run breaks down where the
rounding does. -/
def Number.rounded (mode : RoundingMode) (figures : Int64) (x : Number) :
    Except Fault (Option Float) :=
  match roundTo! x.toFloat mode figures with
  | some r => .ok r
  | none => .error .breakdown

end Assessment
