/-!
# Tolerant equality

A window around a number: exact, or with two distances that are absolute or in percent of the
number. `Tolerance.accepts` is the method `accepts` behind the operator equal, with its two
distances and a flag for each end (section B.4.1 of the specification).

It works over any numbers with the operations it uses. The processor uses it at doubles; at the
rationals the same definition says what the window is without rounding.
-/

namespace Assessment.Numeric

/-- How the two tolerance values are meant. -/
inductive ToleranceMode where
  | exact
  | absolute
  | relative
deriving DecidableEq, Repr

/-- All tolerance modes. -/
def ToleranceMode.all : List ToleranceMode := [.exact, .absolute, .relative]

/-- The name of a tolerance mode. -/
def ToleranceMode.name : ToleranceMode → String
  | .exact => "exact"
  | .absolute => "absolute"
  | .relative => "relative"

/-- The tolerance mode of a name. -/
def ToleranceMode.ofName? (s : String) : Option ToleranceMode :=
  ToleranceMode.all.find? fun m => m.name == s

/-- A tolerance window, each end with or without the bound itself. -/
structure Tolerance (α : Type) where
  mode : ToleranceMode
  lower : α
  upper : α
  includeLower : Bool
  includeUpper : Bool

namespace Tolerance

variable {α : Type}

/-- The two ends of the window around `x`. -/
def ends [Add α] [Sub α] [Mul α] [Div α] [OfNat α 1] [OfNat α 100] (t : Tolerance α) (x : α) :
    α × α :=
  match t.mode with
  | .exact => (x, x)
  | .absolute => (x - t.lower, x + t.upper)
  | .relative => (x * (1 - t.lower / 100), x * (1 + t.upper / 100))

/-- Whether `y` lies between two ends, the first flag for the lower one. -/
def between [LT α] [LE α] [DecidableLT α] [DecidableLE α] (includeLower includeUpper : Bool)
    (low high y : α) : Bool :=
  (if includeLower then decide (low ≤ y) else decide (low < y))
    && (if includeUpper then decide (y ≤ high) else decide (y < high))

/-- Whether `y` lies in the window around `x`; the ends stand in order whatever the sign of `x`
(`Tolerance::accepts`). -/
def accepts [BEq α] [LT α] [LE α] [DecidableLT α] [DecidableLE α] [Add α] [Sub α] [Mul α] [Div α]
    [OfNat α 1] [OfNat α 100] (t : Tolerance α) (x y : α) : Bool :=
  match t.mode with
  | .exact => x == y
  | _ =>
    let (a, b) := t.ends x
    let (low, high) := if a ≤ b then (a, b) else (b, a)
    between t.includeLower t.includeUpper low high y

/-- The window that holds its centre alone. -/
def exact [OfNat α 0] : Tolerance α := ⟨.exact, 0, 0, true, true⟩

end Tolerance

end Assessment.Numeric
