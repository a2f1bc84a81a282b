import Assessment.Expr.Binary

/-!
# Operators on a list of operands

`VariadicOp.apply` applies an operator to the values of its operands. The operators that build a
container (`build_container`, `flatten`) leave out the operands that count as NULL; for the others
one such operand makes the result NULL.

* `sumNumbers` and `multiplyNumbers` fold checked integers in the order in which they stand, and
  doubles where one of them is a float.
* The extreme of numbers is the first that no other one beats.
* Memory has no bound here. The program makes room for all copies of repeat at once, and breaks down
  where the room would exceed what memory can address; here the sequence is just long.
-/

namespace Assessment

open Numeric

/-! ## Building containers -/

/-- The elements that an operand adds to a multiset or a sequence: its own, or itself. -/
def elementsOf (op : String) (ordered : Bool) (v : Value) : Except Fault (List Scalar) :=
  if v.isNull then .ok []
  else
    let refused : Except Fault (List Scalar) :=
      .error (.cardinalityMismatch op
        (if ordered then "single or ordered" else "single or multiple") v.describe)
    match v with
    | .single s => .ok [s]
    | .multiple c => if ordered then refused else .ok c.items
    | .ordered c => if ordered then .ok c.items else refused
    | _ => refused

/-- The elements of all operands, one after the other (`flatten`). -/
def flatten (op : String) (ordered : Bool) : List Value → Except Fault (List Scalar)
  | [] => .ok []
  | v :: rest => do
    let items ← elementsOf op ordered v
    let more ← flatten op ordered rest
    pure (items ++ more)

/-- The multiset or sequence of elements of one base type; NULL without elements. -/
def containerValue (ordered : Bool) (items : List Scalar) : Except Fault Value :=
  match items with
  | [] => .ok .null
  | s :: _ => do
    let c ← Container.ofList s.baseType items
    pure (if ordered then .ordered c else .multiple c)

/-- The multiset or sequence of the elements of all operands (`build_container`). -/
def buildContainer (op : String) (ordered : Bool) (vs : List Value) : Except Fault Value := do
  let items ← flatten op ordered vs
  containerValue ordered items

/-- A list a number of times over. -/
def repeatList (items : List Scalar) : Nat → List Scalar
  | 0 => []
  | n + 1 => items ++ repeatList items n

/-- The sequence of the elements of all operands, a number of times over; NULL for no time. Memory is
unbounded here: a count near `2 ^ 63`, for which no room can be made, gives a sequence too. -/
def repeatValues (op : String) (n : Int64) (vs : List Value) : Except Fault Value :=
  if n.toInt < 0 then .ok .null
  else do
    let items ← flatten op true vs
    if items.isEmpty then pure .null
    else containerValue true (repeatList items n.toInt.toNat)

/-! ## Arithmetic -/

/-- The sum of numbers, an integer when all are. -/
def sumNumbers (ns : List Number) : Value :=
  match allIntegers? ns with
  | some is => .ofInt64? (sumFrom? 0 is)
  | none => .ofFloat (Numeric.sum (ns.map Number.toFloat))

/-- The product of numbers, an integer when all are. -/
def multiplyNumbers (ns : List Number) : Value :=
  match allIntegers? ns with
  | some is => .ofInt64? (productFrom? 1 is)
  | none => .ofFloat (Numeric.product (ns.map Number.toFloat))

/-- The number that a comparison prefers, of equal ones the first, after the best so far. -/
def bestFrom (want : Ordering) (best : Number) : List Number → Number
  | [] => best
  | n :: rest => bestFrom want (if n.compare? best = some want then n else best) rest

/-- The greatest or least of numbers, an integer when all are. -/
def extremeNumber (want : Ordering) (ns : List Number) : Value :=
  match ns with
  | [] => .null
  | n :: rest =>
    match bestFrom want n rest, (allIntegers? ns).isSome with
    | .integer i, true => .ofInt64 i
    | best, _ => .ofFloat best.toFloat

/-- Applies a rule to the numbers of all operands. -/
def onAllNumbers (op : String) (vs : List Value) (f : List Number → Value) :
    Except Fault Value := do
  match ← numbersOf op vs with
  | none => pure .null
  | some ns => pure (f ns)

/-- Applies a rule to the integers of all operands. -/
def onAllIntegers (op : String) (vs : List Value) (f : List Int64 → Option Int64) :
    Except Fault Value := do
  match ← integersOf op vs with
  | none => pure .null
  | some is => pure (.ofInt64? (f is))

/-- The value of an operator for the values of its operands. -/
def VariadicOp.apply (op : VariadicOp) (vs : List Value) : Except Fault Value :=
  match op with
  | multiple => buildContainer op.name false vs
  | ordered => buildContainer op.name true vs
  | sum => onAllNumbers op.name vs sumNumbers
  | product => onAllNumbers op.name vs multiplyNumbers
  | max => onAllNumbers op.name vs (extremeNumber .gt)
  | min => onAllNumbers op.name vs (extremeNumber .lt)
  | gcd => onAllIntegers op.name vs gcd?
  | lcm => onAllIntegers op.name vs lcm?

/-! ## Functions -/

/-- The value of a function of a number and a second one. -/
def applyFunction (f : Function) (x : Number) (y : Float) : Value :=
  match f, x with
  | .abs, .integer n => .ofInt64? (abs? n)
  | f, x =>
    match f.value? x.toFloat y with
    | some r => if f.yieldsInteger then .ofInt64? (truncate? r) else .ofFloat r
    | none => .null

/-- The value of a function for the values of its operands, as many as it takes (`apply_math`). -/
def functionValue (op : String) (f : Function) (vs : List Value) : Except Fault Value :=
  if vs.any Value.isNull then .ok .null
  else match vs with
    | [] => .ok .null
    | [a] => do
      let x ← numberOf op a
      pure (applyFunction f x 0.0)
    | a :: b :: _ => do
      let x ← numberOf op a
      let y ← numberOf op b
      pure (applyFunction f x y.toFloat)

/-- A fault unless a function has as many operands as it takes. -/
def checkArity (op : String) (f : Function) (given : Nat) : Except Fault Unit :=
  if given = f.arity then .ok ()
  else .error (.invalidAttribute op
    (f.title ++ " takes " ++ Text.integerText f.arity ++ " operand(s), got "
      ++ Text.integerText given))

end Assessment
