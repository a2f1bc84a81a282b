import Assessment.Expr.Operand
import Assessment.Pattern.Match

/-!
# Operators on one operand

`UnaryOp.apply` applies an operator to the value of its operand, arm by arm as `eval_expr` does.
Where an operator has an attribute, that is resolved before the operand is looked at, and an operand
that counts as NULL is found before one of the wrong kind (section B.4.1 of the specification).

* A pattern is pasted between marks for the two ends of the text and given to the engine of the
  environment; `matchPattern` reports what the engine refuses, with its reason.
* fieldValue alone asks for NULL itself, where every other operator asks for what counts as NULL.
* A place in a sequence is counted from one; beyond its ends there is NULL.
-/

namespace Assessment

open Numeric

/-- NULL for an operand that counts as NULL, and else what `f` says. -/
def unlessNull (v : Value) (f : Unit → Except Fault Value) : Except Fault Value :=
  if v.isNull then .ok .null else f ()

/-- The number of elements. -/
def countElements (op : String) (v : Value) : Except Fault Value :=
  match v with
  | .null => .ok (.ofInt64 0)
  | .multiple c | .ordered c => .ok (.ofInt64 (Int64.ofInt c.size))
  | v => .error (.cardinalityMismatch op "multiple or ordered" v.describe)

/-- The element at a place, counted from one. -/
def elementAt (items : List Scalar) (n : Int64) : Option Scalar :=
  if n.toInt < 1 then none else items[(n.toInt - 1).toNat]?

/-- The element of a sequence at a place. -/
def indexOf (op : String) (n : Int64) (v : Value) : Except Fault Value :=
  match v with
  | .ordered c => .ok (.ofScalar? (elementAt c.items n))
  | v => .error (.cardinalityMismatch op "ordered" v.describe)

/-- The field of a record. -/
def fieldOf (op name : String) (v : Value) : Except Fault Value :=
  match v with
  | .null => .ok .null
  | .record fields => .ok (.ofScalar? (fields.get? name))
  | v => .error (.cardinalityMismatch op "record" v.describe)

/-- Whether a text matches a pattern as a whole: the pattern is compiled between marks for the two
ends of the text, and found in it or not. -/
def matchPattern (patterns : Pattern.Engine) (op pattern : String) (v : Value) :
    Except Fault Value := do
  let text ← stringOf op v
  match patterns.compile (Pattern.anchoredText pattern) with
  | .ok found => pure (.ofBool (found text))
  | .error reason =>
    .error (.invalidAttribute op ("invalid pattern '" ++ pattern ++ "': " ++ reason))

/-- The scalars that may be points: the single one, or those of a container. -/
def pointsOf (op : String) (v : Value) : Except Fault (List Scalar) :=
  match v with
  | .single s => .ok [s]
  | .multiple c | .ordered c => .ok c.items
  | v => .error (.cardinalityMismatch op "single, multiple or ordered point" v.describe)

/-- Whether an area holds one of the points, which are looked at up to the first inside. -/
def anyInside (op : String) (shape : Shape) (coords : List Float) :
    List Scalar → Except Fault Bool
  | [] => .ok false
  | .point x y :: rest =>
    match shape.contains coords (toFloat x) (toFloat y) with
    | .error m => .error (.invalidAttribute op m.message)
    | .ok true => .ok true
    | .ok false => anyInside op shape coords rest
  | s :: _ => .error (.baseTypeMismatch op "point" s.baseType.name)

/-- A number as an integer: itself, or a float after a rounding. -/
def toIntegerBy (op : String) (rule : Float → Option Int64) (v : Value) : Except Fault Value := do
  match ← numberOf op v with
  | .integer n => pure (.ofInt64 n)
  | .float x => pure (.ofInt64? (rule x))

/-- The value of an operator for the value of its operand. -/
def UnaryOp.apply (op : UnaryOp) (patterns : Pattern.Engine) (store : Store) (v : Value) :
    Except Fault Value :=
  match op with
  | containerSize => countElements op.name v
  | isNull => .ok (.ofBool v.isNull)
  | index n => do
    match ← n.resolve op.name store with
    | none => pure .null
    | some n => unlessNull v fun _ => indexOf op.name n v
  | fieldValue name => fieldOf op.name name v
  | not => unlessNull v fun _ => do
    let b ← booleanOf op.name v
    pure (.ofBool !b)
  | patternMatch pattern => do
    match ← resolvePattern store pattern with
    | none => pure .null
    | some pattern => unlessNull v fun _ => matchPattern patterns op.name pattern v
  | inside shape coords => unlessNull v fun _ => do
    let points ← pointsOf op.name v
    let b ← anyInside op.name shape coords points
    pure (.ofBool b)
  | truncate => unlessNull v fun _ => toIntegerBy op.name truncate? v
  | round => unlessNull v fun _ => toIntegerBy op.name roundHalfUp? v
  | roundTo mode figures => do
    match ← figures.resolve op.name store with
    | none => pure .null
    | some figures => unlessNull v fun _ => do
      let x ← numberOf op.name v
      checkFigures op.name mode figures
      let r ← x.rounded mode figures
      pure (.ofFloat? r)
  | integerToFloat => unlessNull v fun _ => do
    let n ← integerOf op.name v
    pure (.ofFloat (toFloat n))
  | statistic s => unlessNull v fun _ => do
    let c ← containerOf op.name v
    let ns ← numbersOfScalars op.name c.items
    pure (.ofFloat? (s.of? (ns.map Number.toFloat)))

end Assessment
