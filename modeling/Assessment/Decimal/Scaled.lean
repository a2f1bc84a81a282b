import Assessment.Decimal.Shortest

/-!
# Decimals of 96 bits

A `Scaled` number is `± coefficient / 10 ^ scale` with a coefficient below `2 ^ 96` and at most 28
decimal places: the decimals that `round_to` works with, as their library documents them. It is read
from the shortest decimal of a double: past 28 places that decimal is rounded once on the next
digit, halves away from zero. A decimal whose coefficient is too great has none.

Rounding to places (`roundPlaces`) or to significant figures (`roundFigures?`) then goes to the
nearest, ties to the even neighbour. A decimal that has no more digits than it may have stays as it
is, and zero has no figures to round to.
-/

namespace Assessment.Decimal

open Text

/-- `± coefficient / 10 ^ scale`. -/
structure Scaled where
  negative : Bool
  coefficient : Nat
  scale : Nat
deriving Repr, DecidableEq

namespace Scaled

/-- The first coefficient that does not fit. -/
def coefficientBound : Nat := Nat.pow 2 96

/-- The most decimal places. -/
def maxScale : Nat := 28

/-- The decimal held in 96 bits, `none` when its whole part needs more. -/
def ofScientific? (negative : Bool) (s : Scientific) : Option Scaled :=
  if 0 ≤ s.exponent then
    let c := s.coefficient * Nat.pow 10 s.exponent.toNat
    if c < coefficientBound then some ⟨negative, c, 0⟩ else none
  else
    let places := s.exponent.natAbs
    if places ≤ maxScale then some ⟨negative, s.coefficient, places⟩
    else
      let kept := s.coefficient / Nat.pow 10 (places - maxScale)
      let next := s.coefficient / Nat.pow 10 (places - maxScale - 1) % 10
      some ⟨negative, if 5 ≤ next then kept + 1 else kept, maxScale⟩

/-- The nearest double. -/
def toFloat (d : Scaled) : Float :=
  let x := scaledFloat d.coefficient (-d.scale)
  if d.negative then -x else x

/-- `coefficient / 10 ^ cut` to the nearest, the even one of two. -/
def cutDigits (coefficient cut : Nat) : Nat :=
  (nearestEven coefficient (Nat.pow 10 cut : Nat)).toNat

/-- Rounded to at most `places` decimal places; a zero that comes out has no sign. -/
def roundPlaces (d : Scaled) (places : Nat) : Scaled :=
  if d.scale ≤ places then d
  else
    let c := cutDigits d.coefficient (d.scale - places)
    ⟨d.negative && c != 0, c, places⟩

/-- Rounded to at most `figures` significant figures; `none` when the result does not fit. -/
def roundFigures? (d : Scaled) (figures : Nat) : Option Scaled :=
  let held := (digits d.coefficient).length
  if held ≤ figures then some d
  else
    let cut := held - figures
    if cut ≤ d.scale then some (d.roundPlaces (d.scale - cut))
    else
      let c := cutDigits d.coefficient cut * Nat.pow 10 (cut - d.scale)
      if c < coefficientBound then some { d with coefficient := c, scale := 0 } else none

end Scaled

end Assessment.Decimal
