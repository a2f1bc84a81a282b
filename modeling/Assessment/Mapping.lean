import Assessment.Shape
import Assessment.Text.Lowercase
import Assessment.Value.Basic

/-!
# Response mappings: scores for answers

A mapping gives a number to each of its keys, an area mapping to each of its areas (section B.4.3b
of the specification). `Mapping.apply` is `map_value` and `AreaMapping.apply` is `map_points`; both
are `score` over the entries that a rule finds.

* Every distinct element of a response adds the number of the first entry that it matches, and an
  element without one adds the default. Which elements are distinct is `distinct_items`, by the
  equality of scalars.
* An entry counts once, however many elements match it (`addendsFrom` keeps the entries used).
* A key of text may be compared without case; what a point matches is an area.
* The sum is held between the bounds (`clamp`), the upper one last. A response that counts as NULL
  has the sum zero before that.
-/

namespace Assessment

open Text

/-- A key with its number; the case of a text key may be ignored. -/
structure MapEntry where
  key : Scalar
  mappedValue : Float
  caseSensitive : Bool
deriving DecidableEq

/-- Whether an answer matches a key (`key_matches`). -/
def MapEntry.accepts (entry : MapEntry) (s : Scalar) : Bool :=
  match entry.key, s with
  | .string k, .string v =>
    if entry.caseSensitive then k == v else lowercase k == lowercase v
  | key, s => key.same s

/-- Numbers for the values of a response. -/
structure Mapping where
  lowerBound : Option Float
  upperBound : Option Float
  defaultValue : Float
  entries : List MapEntry
deriving DecidableEq

/-- An area with its number. -/
structure AreaMapEntry where
  shape : Shape
  coords : List Float
  mappedValue : Float
deriving DecidableEq

/-- Numbers for the points of a response. -/
structure AreaMapping where
  lowerBound : Option Float
  upperBound : Option Float
  defaultValue : Float
  entries : List AreaMapEntry
deriving DecidableEq

namespace Mapping

/-! ## The elements that count -/

/-- The elements that are not the same as an earlier one, after those in `seen`. -/
def distinctFrom (seen : List Scalar) : List Scalar → List Scalar
  | [] => []
  | s :: rest =>
    if seen.any fun t => t.same s then distinctFrom seen rest
    else s :: distinctFrom (seen ++ [s]) rest

/-- The scalars of a response to score: none for NULL, the distinct ones of several
(`distinct_items`). -/
def answers (identifier : String) : Value → Except Fault (List Scalar)
  | .null => .ok []
  | .single s => .ok [s]
  | .multiple c | .ordered c => .ok (distinctFrom [] c.items)
  | .record _ =>
    .error (.cardinalityMismatch ("mapping of '" ++ identifier ++ "'")
      "single, multiple or ordered" "record")

/-! ## The numbers that add up -/

/-- The numbers that answers add, for a rule that finds an answer's entry and its number. An entry
in `used` adds nothing more. -/
def addendsFrom (find : Scalar → Except Fault (Option (Nat × Float))) (defaultValue : Float)
    (used : List Nat) : List Scalar → Except Fault (List Float)
  | [] => .ok []
  | s :: rest => do
    match ← find s with
    | none =>
      let more ← addendsFrom find defaultValue used rest
      pure (defaultValue :: more)
    | some (i, x) =>
      if used.contains i then addendsFrom find defaultValue used rest
      else
        let more ← addendsFrom find defaultValue (i :: used) rest
        pure (x :: more)

/-- A number that is not below a bound; the bound itself for what is no number. -/
def atLeast (low x : Float) : Float := if x < low || x.isNaN then low else x

/-- A number that is not above a bound; the bound itself for what is no number. -/
def atMost (high x : Float) : Float := if high < x || x.isNaN then high else x

/-- The total, not below the lower bound and not above the upper one (`clamp`). -/
def clamp (lower upper : Option Float) (total : Float) : Float :=
  let raised := match lower with
    | some low => atLeast low total
    | none => total
  match upper with
  | some high => atMost high raised
  | none => raised

/-- The sum of addends between the bounds. -/
def score (lower upper : Option Float) (addends : List Float) : Float :=
  clamp lower upper (addends.foldl (· + ·) 0.0)

/-! ## Keys -/

/-- The first entry that an answer matches, with its place from `i` on. -/
def findEntry (s : Scalar) (i : Nat) : List MapEntry → Option (Nat × Float)
  | [] => none
  | e :: rest => if e.accepts s then some (i, e.mappedValue) else findEntry s (i + 1) rest

/-- The score of a value. -/
def apply (m : Mapping) (identifier : String) (v : Value) : Except Fault Float := do
  let ss ← answers identifier v
  let addends ← addendsFrom (fun s => .ok (findEntry s 0 m.entries)) m.defaultValue [] ss
  pure (score m.lowerBound m.upperBound addends)

end Mapping

namespace AreaMapping

/-! ## Areas -/

/-- The first area that holds a point, with its place from `i` on. -/
def findArea (x y : Float) (i : Nat) :
    List AreaMapEntry → Except Fault (Option (Nat × Float))
  | [] => .ok none
  | e :: rest =>
    match e.shape.contains e.coords x y with
    | .error m => .error (.invalidAttribute "areaMapping" m.message)
    | .ok true => .ok (some (i, e.mappedValue))
    | .ok false => findArea x y (i + 1) rest

/-- The entry of an answer, which has to be a point. -/
def findEntry (m : AreaMapping) (identifier : String) (s : Scalar) :
    Except Fault (Option (Nat × Float)) :=
  match s with
  | .point x y => findArea (Numeric.toFloat x) (Numeric.toFloat y) 0 m.entries
  | s =>
    .error (.baseTypeMismatch ("area mapping of '" ++ identifier ++ "'") "point"
      s.baseType.name)

/-- The score of a value. -/
def apply (m : AreaMapping) (identifier : String) (v : Value) : Except Fault Float := do
  let ss ← Mapping.answers identifier v
  let addends ← Mapping.addendsFrom (m.findEntry identifier) m.defaultValue [] ss
  pure (Mapping.score m.lowerBound m.upperBound addends)

end AreaMapping

end Assessment
