import Assessment.Decimal.Scaled
import Assessment.Numeric.Bounded

/-!
# Rounding

The roundings of the numeric helpers (`round_half_up`, `truncate`, `round_to` and its fallback
`round_to_binary`), behind the operators round, truncate, roundTo and equalRounded.

`roundHalfUp?` and `truncate?` go to an integer, and give nothing where 64 bits do not hold it.
`roundTo!` goes to a number of decimal places or of significant figures: it rounds the shortest
decimal of a double, ties to the even neighbour, so that 3.145 to two places is 3.14 and 0.35 to one
place is 0.4. The decimal is held in 96 bits with at most 28 places, as the decimals of the program
are, so that further digits are lost before the rounding.

Where 96 bits do not hold the decimal, or hold nothing but zero, `roundBinary!` scales the double
itself by a power of ten, rounds it to a whole number and scales it back. How far it scales is a
calculation in integers of 32 bits, `scaledPlaces!` and the opposite in `roundScaled!`. It is
checked: a result beyond 32 bits is no result, and the whole run breaks down. Names that end in a
mark of exclamation give `none` for that alone, the outer one where there are two.
-/

namespace Assessment.Numeric

open Decimal

/-- What `roundTo!` counts. -/
inductive RoundingMode where
  | significantFigures
  | decimalPlaces
deriving DecidableEq, Repr

/-- All rounding modes. -/
def RoundingMode.all : List RoundingMode := [.significantFigures, .decimalPlaces]

/-- The name of a rounding mode. -/
def RoundingMode.name : RoundingMode → String
  | .significantFigures => "significantFigures"
  | .decimalPlaces => "decimalPlaces"

/-- The rounding mode of a name. -/
def RoundingMode.ofName? (s : String) : Option RoundingMode :=
  RoundingMode.all.find? fun m => m.name == s

/-- The least count of figures that a mode takes. -/
def RoundingMode.least : RoundingMode → Int
  | .significantFigures => 1
  | .decimalPlaces => 0

/-- A double that is finite (`finite`). -/
def finite? (x : Float) : Option Float := if x.isFinite then some x else none

/-! ## To an integer -/

/-- The integer next below `x + 0.5`, the sum taken as a double (`round_half_up`). -/
def roundHalfUp? (x : Float) : Option Int64 :=
  (Binary.ofFloat? (x + 0.5)).bind fun b => fit? b.floor

/-- The integer part (`truncate`). -/
def truncate? (x : Float) : Option Int64 :=
  (Binary.ofFloat? x).bind fun b => fit? b.truncate

/-! ## To figures -/

/-- `base ^ n` by squaring, each product rounded, after the factors in `acc`. -/
def powerBySquaring (base acc : Float) (n : Nat) : Float :=
  if n < 2 then if n = 1 then acc * base else acc
  else powerBySquaring (base * base) (if n % 2 = 1 then acc * base else acc) (n / 2)
termination_by n
decreasing_by omega

/-- The power of ten that a scaling by places uses, as `powi` multiplies it up. -/
def tenTo (places : Nat) : Float := powerBySquaring 10.0 1.0 places

/-- The nearest whole double, the even one of two. -/
def nearestWhole (x : Float) : Float := roundFloat Binary.nearest x

/-- The integers that 32 bits hold. -/
def FitsInt32 (k : Int) : Prop := Int32.minValue.toInt ≤ k ∧ k ≤ Int32.maxValue.toInt

instance (k : Int) : Decidable (FitsInt32 k) := inferInstanceAs (Decidable (_ ∧ _))

/-- The result of a step on integers of 32 bits, which breaks down where they do not hold it. -/
def int32! (k : Int) : Option Int := if FitsInt32 k then some k else none

/-- Rounds at `places` decimal places, a negative count meaning tens, hundreds and so on. The
opposite of such a count has to fit 32 bits. -/
def roundScaled! (x : Float) (places : Int) : Option (Option Float) :=
  if 0 ≤ places then
    let scale := tenTo places.toNat
    let scaled := x * scale
    some (if scaled.isFinite then finite? (nearestWhole scaled / scale) else finite? x)
  else do
    let opposite ← int32! (-places)
    let scale := tenTo opposite.toNat
    some (finite? (nearestWhole (x / scale) * scale))

/-- The natural logarithm of ten, in units of `10 ^ -15`. -/
def logOfTen : Nat := 2302585092994046

/-- From a whole number `k` down to the next double it is `2 ^ (1 - halfStep k)`. -/
def halfStep (k : Int) : Nat :=
  let bits := Nat.log2 k.natAbs
  if k = Nat.pow 2 bits then 54 - bits else 53 - bits

/-- Whether the decimal logarithm of a magnitude, as a double, is `k` or more. It is `k` too where
it is less by up to half a step: `10 ^ h` is `1 + h * ln 10` for so small an `h`. Only zero has
doubles of any closeness below it. -/
def reachesPower (b : Binary) (k : Int) : Bool :=
  let (top, bottom) := gridRatio k b.exponent
  let unit := Nat.pow 2 (halfStep k) * Nat.pow 10 15
  top * unit ≤ b.mantissa * bottom * (if k = 0 then unit else unit + logOfTen)

/-- The exponent of ten of a magnitude's first digit, the floor of its decimal logarithm. The
logarithm is taken as the nearest double. `log10` does not promise that: next to a power of ten it
may be a step off, and the exponent with it. -/
def leadingPower (x : Float) : Int :=
  match Binary.ofFloat? x with
  | some b =>
    let bits : Int := (Nat.log2 b.mantissa : Int) + b.exponent
    let below := bits * 30103 / 100000
    if reachesPower b (below + 1) then below + 1 else below
  | none => 0

/-- The first count of figures that does not fit 31 bits. -/
def scaledBound : Nat := Nat.pow 2 31

/-- The decimal places up to which a count of figures goes. For significant figures they are a
difference of integers of 32 bits, which breaks down where it leaves them. -/
def RoundingMode.scaledPlaces! (mode : RoundingMode) (x : Float) (figures : Nat) : Option Int :=
  match mode with
  | .decimalPlaces => some figures
  | .significantFigures => do
    let further ← int32! (figures - 1)
    int32! (further - leadingPower x)

/-- Rounds the double itself, where no 96-bit decimal holds it (`round_to_binary`). -/
def roundBinary! (x : Float) (mode : RoundingMode) (figures : Nat) : Option (Option Float) :=
  if figures < scaledBound then do
    let places ← mode.scaledPlaces! x figures
    roundScaled! x places
  else some none

/-- Rounds a decimal of 96 bits in a mode. -/
def roundScaledDecimal? (d : Scaled) (mode : RoundingMode) (figures : Nat) : Option Scaled :=
  match mode with
  | .decimalPlaces => some (d.roundPlaces figures)
  | .significantFigures => d.roundFigures? figures

/-- The shortest decimal of a finite double in 96 bits. -/
def scaledOf? (x : Float) : Option Scaled :=
  (Binary.ofFloat? x).bind fun b =>
    Scaled.ofScientific? b.negative (shortest b.mantissa b.exponent)

/-- The double rounded to a count of figures of at most 32 bits; the inner `none` stands for any
other count, and where the result is not finite (`round_to`). The outer `none` is a breakdown: the
places of the last figure leave 32 bits. -/
def roundTo! (x : Float) (mode : RoundingMode) (figures : Int64) : Option (Option Float) :=
  let n := figures.toInt
  if !x.isFinite || n < mode.least || UInt32.size ≤ n then some none
  else if x == 0.0 then some (some 0.0)
  else
    match scaledOf? x with
    | some d =>
      if d.coefficient = 0 then roundBinary! x mode n.toNat
      else
        match roundScaledDecimal? d mode n.toNat with
        | some r => some (finite? r.toFloat)
        | none => roundBinary! x mode n.toNat
    | none => roundBinary! x mode n.toNat

end Assessment.Numeric
