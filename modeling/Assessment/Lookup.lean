import Assessment.Value.Basic

/-!
# Lookup tables

A match table gives a value to single integers, an interpolation table to ranges of numbers (section
B.4.3 of the specification). `LookupTable.resolve` is `resolve`, and its two halves are
`resolve_match` and `resolve_interpolation`.

* In a match table the first entry whose source equals the integer counts.
* In an interpolation table the entry with the greatest bound that the source satisfies counts, and
  of equal bounds the earlier entry. Each entry says for itself whether its bound belongs to it.
* A source that counts as NULL, or that no entry fits, gives the default, and NULL without one. A
  source that is no number of the right kind is a fault.
-/

namespace Assessment

/-- An integer with its target. -/
structure MatchEntry where
  source : Int64
  target : Scalar
deriving DecidableEq

/-- The lower bound of a range with its target; the bound itself belongs to the range or not. -/
structure InterpolationEntry where
  bound : Float
  includeBoundary : Bool
  target : Scalar
deriving DecidableEq

/-- Whether a number satisfies the bound of an entry. -/
def InterpolationEntry.admits (e : InterpolationEntry) (x : Float) : Bool :=
  if e.includeBoundary then e.bound ≤ x else e.bound < x

/-- A table of targets, with a default or without. -/
inductive LookupTable where
  | matching (default : Option Scalar) (entries : List MatchEntry)
  | interpolation (default : Option Scalar) (entries : List InterpolationEntry)
deriving DecidableEq

namespace LookupTable

/-- The target of an integer, of several entries the first (`resolve_match`). -/
def findMatch (entries : List MatchEntry) (key : Int64) : Option Scalar :=
  (entries.find? fun e => e.source == key).map (·.target)

/-- The entry with the greatest bound that `x` satisfies, after the best one so far. -/
def bestFrom (x : Float) (best : Option InterpolationEntry) :
    List InterpolationEntry → Option InterpolationEntry
  | [] => best
  | e :: rest =>
    let better := match best with
      | none => true
      | some b => decide (b.bound < e.bound)
    bestFrom x (if e.admits x && better then some e else best) rest

/-- The target of the range that holds a number. -/
def findBand (entries : List InterpolationEntry) (x : Float) : Option Scalar :=
  (bestFrom x none entries).map (·.target)

/-- The number that a source holds. -/
def sourceNumber? : Value → Option Float
  | .single s => s.toFloat?
  | _ => none

/-- The value that a table gives to a source (`resolve`). -/
def resolve (table : LookupTable) (source : Value) : Except Fault Value :=
  match table with
  | matching default entries =>
    if source.isNull then .ok (Value.ofScalar? default)
    else match source with
      | .single (.integer key) => .ok (Value.ofScalar? (findMatch entries key <|> default))
      | v => .error (.integerRequired "matchTable" v.describe)
  | interpolation default entries =>
    if source.isNull then .ok (Value.ofScalar? default)
    else match sourceNumber? source with
      | some x => .ok (Value.ofScalar? (findBand entries x <|> default))
      | none =>
        .error (.invalidOperand "interpolationTable"
          ("source must be a single number, got " ++ source.describe))

end LookupTable

end Assessment
