import Assessment.Numeric.Rounding

/-!
# Mathematical functions

The functions that `mathOperator` applies, by name: the helper `math`, with `arity` and
`yields_integer`. A function has no value outside its domain and where the value is not finite.
Those that yield an integer (`floor`, `ceil`, `signum`) have no value where 64 bits do not hold it
either; that is seen to where the operator is applied.
-/

namespace Assessment.Numeric

open Decimal

/-- A function on numbers. -/
inductive Function where
  | sin | cos | tan | sec | csc | cot
  | asin | acos | atan | atan2 | asec | acsc | acot
  | sinh | cosh | tanh | sech | csch | coth
  | log | ln | exp
  | abs | signum | floor | ceil
  | toDegrees | toRadians
deriving DecidableEq, Repr

/-- All functions. -/
def Function.all : List Function :=
  [.sin, .cos, .tan, .sec, .csc, .cot, .asin, .acos, .atan, .atan2, .asec, .acsc, .acot, .sinh,
    .cosh, .tanh, .sech, .csch, .coth, .log, .ln, .exp, .abs, .signum, .floor, .ceil, .toDegrees,
    .toRadians]

/-- The name of a function in programs. -/
def Function.name : Function → String
  | .sin => "sin"
  | .cos => "cos"
  | .tan => "tan"
  | .sec => "sec"
  | .csc => "csc"
  | .cot => "cot"
  | .asin => "asin"
  | .acos => "acos"
  | .atan => "atan"
  | .atan2 => "atan2"
  | .asec => "asec"
  | .acsc => "acsc"
  | .acot => "acot"
  | .sinh => "sinh"
  | .cosh => "cosh"
  | .tanh => "tanh"
  | .sech => "sech"
  | .csch => "csch"
  | .coth => "coth"
  | .log => "log"
  | .ln => "ln"
  | .exp => "exp"
  | .abs => "abs"
  | .signum => "signum"
  | .floor => "floor"
  | .ceil => "ceil"
  | .toDegrees => "toDegrees"
  | .toRadians => "toRadians"

/-- The function of a name. -/
def Function.ofName? (s : String) : Option Function :=
  Function.all.find? fun f => f.name == s

/-- The title of a function in messages: its name with a capital. -/
def Function.title (f : Function) : String :=
  match f.name.toList with
  | c :: rest => String.ofList (Char.ofNat (c.toNat - 0x20) :: rest)
  | [] => ""

/-- How many operands a function takes (`arity`). -/
def Function.arity : Function → Nat
  | .atan2 => 2
  | _ => 1

/-- Whether the values of a function are integers (`yields_integer`). -/
def Function.yieldsInteger : Function → Bool
  | .floor | .ceil | .signum => true
  | _ => false

/-- The ratio of a circle's circumference to its diameter. -/
def pi : Float := 3.141592653589793

/-- The base of natural logarithms. -/
def e : Float := 2.718281828459045

/-- One over a number. -/
def reciprocal (x : Float) : Float := 1.0 / x

/-- One with the sign of a number, its zeros included. -/
def signOf (x : Float) : Float :=
  match Binary.ofFloat? x with
  | some b => if b.negative then -1.0 else 1.0
  | none => if x.isNaN then x else if x < 0.0 then -1.0 else 1.0

/-- The value at `x`, or at `x` and `y`, without regard to finiteness. -/
def Function.at? (f : Function) (x y : Float) : Option Float :=
  match f with
  | .sin => some x.sin
  | .cos => some x.cos
  | .tan => some x.tan
  | .sec => some (reciprocal x.cos)
  | .csc => some (reciprocal x.sin)
  | .cot => some (reciprocal x.tan)
  | .asin => some x.asin
  | .acos => some x.acos
  | .atan => some x.atan
  | .atan2 => some (x.atan2 y)
  | .asec => if 1.0 ≤ x.abs then some (reciprocal x).acos else none
  | .acsc => if 1.0 ≤ x.abs then some (reciprocal x).asin else none
  | .acot => some (if x == 0.0 then pi / 2.0 else (reciprocal x).atan)
  | .sinh => some x.sinh
  | .cosh => some x.cosh
  | .tanh => some x.tanh
  | .sech => some (reciprocal x.cosh)
  | .csch => some (reciprocal x.sinh)
  | .coth => some (reciprocal x.tanh)
  | .log => if 0.0 < x then some x.log10 else none
  | .ln => if 0.0 < x then some x.log else none
  | .exp => some x.exp
  | .abs => some x.abs
  | .signum => some (if x == 0.0 then 0.0 else signOf x)
  | .floor => some (roundFloat Binary.floor x)
  | .ceil => some (roundFloat Binary.ceil x)
  | .toDegrees => some (x * (180.0 / pi))
  | .toRadians => some (x * (pi / 180.0))

/-- The value at `x`, or at `x` and `y`; `none` outside the domain and where it is not finite
(`math`). -/
def Function.value? (f : Function) (x y : Float) : Option Float :=
  (f.at? x y).bind finite?

end Assessment.Numeric
