import Assessment.Numeric.Bounded
import Assessment.Text.Blank
import Assessment.Text.Numeral

/-!
# Shapes: areas of a plane

An area is a shape with a list of coordinates, and holds a point on its edge too. `Shape.contains`
is `contains`, behind the operator `inside` and the areas of a mapping.

* `rect`: left, top, right, bottom, either of two opposite corners first.
* `circle`: centre and radius. `ellipse`: centre, horizontal and vertical radius.
* `poly`: the vertices in turn; the first may be repeated at the end. `inPolygon` is `in_polygon`: a
  point is inside when it lies on a side (`on_segment`), or when a ray from it crosses the sides an
  odd number of times. The walk goes once round the outline and works in doubles throughout.
* `default`: everything.

Coordinates are read from a text of numbers between commas (`Coords::parse`), and a list that does
not fit its shape is an attribute that is not valid, with the text of `ShapeMismatch.message`.
-/

namespace Assessment

open Text Numeric

/-- The form of an area. -/
inductive Shape where
  | default
  | rect
  | circle
  | poly
  | ellipse
deriving DecidableEq, Repr

/-- All shapes. -/
def Shape.all : List Shape := [.default, .rect, .circle, .poly, .ellipse]

/-- The name of a shape. -/
def Shape.name : Shape → String
  | .default => "default"
  | .rect => "rect"
  | .circle => "circle"
  | .poly => "poly"
  | .ellipse => "ellipse"

/-- The shape of a name. -/
def Shape.ofName? (s : String) : Option Shape :=
  Shape.all.find? fun x => x.name == s

/-! ## Coordinates -/

/-- The parts between the commas of a text. -/
def commaParts : List Char → List (List Char)
  | [] => [[]]
  | c :: rest =>
    if c == ',' then [] :: commaParts rest
    else match commaParts rest with
      | [] => [[c]]
      | part :: parts => (c :: part) :: parts

/-- The numbers of a list of parts; the first part that is no finite number is the error. -/
def readCoordinates : List (List Char) → Except String (List Float)
  | [] => .ok []
  | part :: rest =>
    let part := String.ofList (trimChars part)
    match readFinite? part with
    | none => .error part
    | some x => (readCoordinates rest).map (x :: ·)

/-- The coordinates that a text lists with commas, none for a blank text; the error is the part that
is no finite number (`Coords::parse`). -/
def parseCoordinates (s : String) : Except String (List Float) :=
  if (trim s).isEmpty then .ok [] else readCoordinates (commaParts s.toList)

/-- The wording for a part of a coordinate list that is no finite number. -/
def badCoordinateText (part : String) : String := "invalid coordinate '" ++ part ++ "'"

/-! ## Areas -/

/-- Why a list of coordinates does not fit a shape. -/
inductive ShapeMismatch where
  | count (shape : Shape) (needed got : Nat)
  | vertices (got : Nat)
  | radii
deriving DecidableEq, Repr

/-- The wording of a mismatch. -/
def ShapeMismatch.message : ShapeMismatch → String
  | .count shape needed got =>
    shape.name ++ " needs " ++ integerText needed ++ " coordinates, got " ++ integerText got
  | .vertices got =>
    "poly needs an even number of at least 6 coordinates, got " ++ integerText got
  | .radii => "ellipse radii must be positive"

namespace Shape

/-- A point of the plane. -/
abbrev Point := Float × Float

/-- The lesser of two numbers, the first of two equal ones. -/
def lesser (a b : Float) : Float := if b < a then b else a

/-- The greater of two numbers, the first of two equal ones. -/
def greater (a b : Float) : Float := if a < b then b else a

/-- How far the product that tells on which side of a line a point lies may be from zero. -/
def onLineBound : Float := 2.220446049250313e-16

/-- Whether `p` lies on the segment from `a` to `b` (`on_segment`). -/
def onSegment (a b p : Point) : Bool :=
  let cross := (b.1 - a.1) * (p.2 - a.2) - (b.2 - a.2) * (p.1 - a.1)
  !(onLineBound < cross.abs)
    && (lesser a.1 b.1 ≤ p.1 && p.1 ≤ greater a.1 b.1
      && lesser a.2 b.2 ≤ p.2 && p.2 ≤ greater a.2 b.2)

/-- Whether the ray to the right of `p` crosses the segment from `a` to `b`. -/
def crosses (a b p : Point) : Bool :=
  decide (p.2 < a.2) != decide (p.2 < b.2)
    && decide (p.1 < (b.1 - a.1) * (p.2 - a.2) / (b.2 - a.2) + a.1)

/-- Whether a point lies on an edge of the outline from `previous` on, or is inside after its ray
has crossed them. An edge that holds the point decides; one that the ray crosses leads out of the
outline or into it. -/
def walkOutline (p previous : Point) (inside : Bool) : List Point → Bool
  | [] => inside
  | v :: rest =>
    if onSegment v previous p then true
    else walkOutline p v (if crosses v previous p then !inside else inside) rest

/-- Whether a point lies on an edge, or its ray crosses an odd number of edges (`in_polygon`). The
edge to the first vertex is the one from the last. -/
def inPolygon (vertices : List Point) (p : Point) : Bool :=
  match vertices.getLast? with
  | none => false
  | some last => walkOutline p last false vertices

/-- The points that a list of coordinates names, two for each. -/
def pairUp : List Float → List Point
  | x :: y :: rest => (x, y) :: pairUp rest
  | _ => []

/-- Whether the area of a shape and its coordinates holds a point, its edge included (`contains`).
-/
def contains (shape : Shape) (coords : List Float) (x y : Float) : Except ShapeMismatch Bool :=
  match shape with
  | .default => .ok true
  | .rect =>
    match coords with
    | [l, t, r, b] =>
      .ok (lesser l r ≤ x && x ≤ greater l r && lesser t b ≤ y && y ≤ greater t b)
    | _ => .error (.count .rect 4 coords.length)
  | .circle =>
    match coords with
    | [cx, cy, radius] =>
      let dx := x - cx
      let dy := y - cy
      .ok (dx * dx + dy * dy ≤ radius * radius)
    | _ => .error (.count .circle 3 coords.length)
  | .ellipse =>
    match coords with
    | [cx, cy, hr, vr] =>
      if hr ≤ 0.0 || vr ≤ 0.0 then .error .radii
      else
        let dx := (x - cx) / hr
        let dy := (y - cy) / vr
        .ok (dx * dx + dy * dy ≤ 1.0)
    | _ => .error (.count .ellipse 4 coords.length)
  | .poly =>
    if coords.length < 6 || coords.length % 2 != 0 then .error (.vertices coords.length)
    else .ok (inPolygon (pairUp coords) (x, y))

end Shape

end Assessment
