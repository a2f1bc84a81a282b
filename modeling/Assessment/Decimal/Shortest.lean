import Assessment.Decimal.Binary
import Assessment.Text.Numeral

/-!
# Shortest decimal text of a double

Of the decimals that read back as a double, `shortest` takes one with the fewest digits, and of
those the nearest to the double. It looks for the coarsest grid of powers of ten with a point in the
interval of numbers that round to the double; the ends of the interval belong to it when the
mantissa of the double is even.

These are the digits that a double is printed with, in JSON and in texts, and those that `round_to`
rounds (section B.4.1 of the specification: the digits it prints as). A `Style` says where
positional text ends and whether a whole number shows a point; JSON and texts differ in that alone.
-/

namespace Assessment.Decimal

open Text

/-! ## The digits -/

/-- A positive decimal, `coefficient * 10 ^ exponent`. -/
structure Scientific where
  coefficient : Nat
  exponent : Int
deriving Repr, DecidableEq

/-- The numbers that round to `mantissa * 2 ^ exponent`, in quarters of its last place:
between `low` and `high`, these two included or not. -/
structure Neighbourhood where
  low : Nat
  centre : Nat
  high : Nat
  closed : Bool
  exponent : Int

/-- What rounds to a positive double: half the distance to each neighbour, and the ends with an
even mantissa. Below a power of two the neighbour is half as far. -/
def neighbourhood (mantissa : Nat) (exponent : Int) : Neighbourhood where
  low :=
    if mantissa = Binary.leadingBit ∧ -1074 < exponent then 4 * mantissa - 1
    else 4 * mantissa - 2
  centre := 4 * mantissa
  high := 4 * mantissa + 2
  closed := mantissa % 2 == 0
  exponent := exponent - 2

/-- Ten and two to integer powers as one fraction: `10 ^ k = (top / bottom) * 2 ^ p`. -/
def gridRatio (k p : Int) : Nat × Nat :=
  (Nat.pow 10 k.toNat * Nat.pow 2 (-p).toNat, Nat.pow 10 (-k).toNat * Nat.pow 2 p.toNat)

/-- The point of the grid `10 ^ k` in the neighbourhood, the one nearer to the centre of two. -/
def gridPoint? (h : Neighbourhood) (k : Int) : Option Nat :=
  let (top, bottom) := gridRatio k h.exponent
  let inside (c : Nat) : Bool :=
    if h.closed then h.low * bottom ≤ c * top && c * top ≤ h.high * bottom
    else h.low * bottom < c * top && c * top < h.high * bottom
  let below := h.centre * bottom / top
  let above := below + 1
  match inside below, inside above with
  | true, true =>
    if h.centre * bottom - below * top ≤ above * top - h.centre * bottom then some below
    else some above
  | true, false => some below
  | false, true => some above
  | false, false => none

/-- The coarsest grid from `10 ^ k` downward with a point in the neighbourhood. -/
def coarsest (h : Neighbourhood) : Nat → Int → Scientific
  | 0, k => ⟨h.centre, k⟩
  | steps + 1, k =>
    match gridPoint? h k with
    | some c => ⟨c, k⟩
    | none => coarsest h steps (k - 1)

/-- The shortest decimal that reads back as a positive double. -/
def shortest (mantissa : Nat) (exponent : Int) : Scientific :=
  let bits : Int := (Nat.log2 mantissa : Int) + exponent
  coarsest (neighbourhood mantissa exponent) 30 (bits * 30103 / 100000 + 2)

/-! ## The text -/

/-- How a decimal is written: positional where the point falls after more than `above` and at
most `upTo` places (`none`: everywhere), and with a final `.0` on whole numbers or without. -/
structure Style where
  positional : Option (Int × Int)
  wholeMark : Bool

/-- Whether a point after `places` digits is written positionally. -/
def Style.isPositional (style : Style) (places : Int) : Bool :=
  match style.positional with
  | none => true
  | some (above, upTo) => above < places && places ≤ upTo

/-- A decimal in digits, a point where its exponent says. -/
def positionalChars (wholeMark : Bool) (s : Scientific) : List Char :=
  let ds := digits s.coefficient
  let places : Int := ds.length + s.exponent
  if 0 ≤ s.exponent then
    ds ++ List.replicate s.exponent.toNat '0' ++ (if wholeMark then ['.', '0'] else [])
  else if 0 < places then ds.take places.toNat ++ '.' :: ds.drop places.toNat
  else '0' :: '.' :: List.replicate (-places).toNat '0' ++ ds

/-- A decimal with one digit before its point and the power of ten after it. -/
def exponentChars (s : Scientific) : List Char :=
  let ds := digits s.coefficient
  let power : Int := ds.length + s.exponent - 1
  let fraction := ds.drop 1
  ds.take 1 ++ (if fraction.isEmpty then [] else '.' :: fraction)
    ++ 'e' :: (if power < 0 then '-' else '+') :: digits power.natAbs

/-- A positive decimal in a style. -/
def Style.chars (style : Style) (s : Scientific) : List Char :=
  if style.isPositional ((digits s.coefficient).length + s.exponent) then
    positionalChars style.wholeMark s
  else exponentChars s

/-- A finite double in a style. -/
def Style.binaryChars (style : Style) (b : Binary) : List Char :=
  let sign := if b.negative then ['-'] else []
  if b.mantissa = 0 then sign ++ '0' :: (if style.wholeMark then ['.', '0'] else [])
  else sign ++ style.chars (shortest b.mantissa b.exponent)

/-- Digits without an exponent, however many, and no point in a whole number. -/
def plainStyle : Style := ⟨none, false⟩

/-- The plain text of any double. -/
def plainText (x : Float) : String :=
  match Binary.ofFloat? x with
  | some b => String.ofList (plainStyle.binaryChars b)
  | none => if x.isNaN then "NaN" else if x < 0.0 then "-inf" else "inf"

end Assessment.Decimal
