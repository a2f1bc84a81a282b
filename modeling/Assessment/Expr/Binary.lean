import Assessment.Expr.Unary
import Assessment.Numeric.Integer

/-!
# Operators on two operands

`BinaryOp.apply` applies an operator to the values of its operands, arm by arm as `eval_expr` does.
An operand that counts as NULL is found before one of the wrong kind.

* member, delete and contains compare by the equality of scalars; multisets are compared by
  counting, sequences by runs of neighbours.
* equal asks for its tolerances before its numbers, equalRounded for its figures; each tolerance
  that is a NULL variable makes the result NULL.
* Sums and differences of integers stay integers where 64 bits hold them and are NULL else; a
  quotient is always a float.
-/

namespace Assessment

open Numeric Text

/-- NULL when an operand counts as NULL, and else what `f` says (`null_if_any`). -/
def unlessEitherNull (a b : Value) (f : Unit → Except Fault Value) : Except Fault Value :=
  if a.isNull || b.isNull then .ok .null else f ()

/-! ## Containers -/

/-- The element and the container of an operator that takes both, of one base type. -/
def elementAndContainer (op : String) (a b : Value) : Except Fault (Scalar × Container) := do
  let s ← scalarOf op a
  let c ← containerOf op b
  requireSameBaseType op (some c.baseType) (some s.baseType)
  pure (s, c)

/-- The container without an element, in the cardinality it had. -/
def rebuild (container : Value) (c : Container) : Value :=
  match container with
  | .ordered _ => .ordered c
  | _ => .multiple c

/-- Whether a container has all elements of another: a multiset each of them as often, a sequence
all of them as a run. -/
def containsAll (op : String) (outer inner : Value) : Except Fault Value := do
  requireSameBaseType op outer.baseType? inner.baseType?
  match outer, inner with
  | .multiple c, .multiple d => pure (.ofBool (Container.includes c.items d.items))
  | .ordered c, .ordered d => pure (.ofBool (Container.hasRun d.items c.items))
  | a, b =>
    .error (.cardinalityMismatch op "two multiple or two ordered containers"
      (a.describe ++ " and " ++ b.describe))

/-! ## Matching -/

/-- Whether two values of one kind are the same. -/
def matchValues (op : String) (a b : Value) : Except Fault Value := do
  if a.cardinality? ≠ b.cardinality? then
    .error (.cardinalityMismatch op a.describe b.describe)
  else do
    requireSameBaseType op a.baseType? b.baseType?
    pure (.ofBool (a.same b))

/-- Whether a text starts with another. -/
def isPrefixText : List Char → List Char → Bool
  | [], _ => true
  | _ :: _, [] => false
  | a :: as, b :: bs => a == b && isPrefixText as bs

/-- Whether a text occurs in another. -/
def occursIn (needle : List Char) : List Char → Bool
  | [] => needle.isEmpty
  | c :: rest => isPrefixText needle (c :: rest) || occursIn needle rest

/-- A text as it is, or in small letters (`fold_case`). -/
def inCase (caseSensitive : Bool) (s : String) : String :=
  if caseSensitive then s else lowercase s

/-- Whether two texts are equal, or the second occurs in the first. -/
def matchTexts (caseSensitive substring : Bool) (a b : String) : Bool :=
  let a := inCase caseSensitive a
  let b := inCase caseSensitive b
  if substring then occursIn b.toList a.toList else a == b

/-! ## Comparison -/

/-- Whether an order satisfies a comparison. -/
def Comparison.accepts (c : Comparison) (o : Ordering) : Bool :=
  match c with
  | .lt => o == .lt
  | .gt => o == .gt
  | .lte => o != .gt
  | .gte => o != .lt

/-- The two tolerance values of the attributes given. -/
def resolveTolerance (op : String) (store : Store) (tolerance : List FloatAttribute) :
    Except Fault (Option (Float × Float)) :=
  match tolerance with
  | [t] => do
    let t ← t.resolve op store
    pure (t.map fun t => (t, t))
  | [t0, t1] => do
    let t0 ← t0.resolve op store
    let t1 ← t1.resolve op store
    pure (t0.bind fun t0 => t1.map fun t1 => (t0, t1))
  | _ =>
    .error (.invalidAttribute op "absolute and relative modes need one or two tolerance values")

/-- The tolerance window that the attributes describe; `none` when one of them counts as NULL. -/
def resolveWindow (op : String) (store : Store) (mode : ToleranceMode)
    (tolerance : List FloatAttribute) (includeLower includeUpper : Bool) :
    Except Fault (Option (Tolerance Float)) :=
  match mode with
  | .exact => .ok (some Tolerance.exact)
  | mode => do
    match ← resolveTolerance op store tolerance with
    | none => pure none
    | some (lower, upper) =>
      if lower < 0.0 || upper < 0.0 then
        .error (.invalidAttribute op "tolerance must not be negative")
      else pure (some ⟨mode, lower, upper, includeLower, includeUpper⟩)

/-- Whether two numbers are equal within a window; two integers in the exact one as integers. -/
def equalWithin (window : Tolerance Float) (x y : Number) : Bool :=
  match window.mode, x, y with
  | .exact, .integer a, .integer b => a == b
  | _, x, y => window.accepts x.toFloat y.toFloat

/-- Whether two numbers are equal after rounding; NULL when one cannot be rounded. -/
def equalAfterRounding (mode : RoundingMode) (figures : Int64) (x y : Number) :
    Except Fault Value := do
  let x ← x.rounded mode figures
  let y ← y.rounded mode figures
  match x, y with
  | some x, some y => pure (.ofBool (x == y))
  | _, _ => pure .null

/-! ## Arithmetic -/

/-- The difference of two numbers, an integer for two integers. -/
def subtractNumbers (x y : Number) : Value :=
  match x, y with
  | .integer a, .integer b => .ofInt64? (sub? a b)
  | x, y => .ofFloat (x.toFloat - y.toFloat)

/-- The quotient of two numbers; NULL for a divisor of zero. -/
def divideNumbers (x y : Number) : Value :=
  if y.toFloat == 0.0 then .null else .ofFloat (x.toFloat / y.toFloat)

/-- Applies a rule to two numbers. -/
def onNumbers (op : String) (a b : Value) (f : Number → Number → Value) :
    Except Fault Value := do
  let x ← numberOf op a
  let y ← numberOf op b
  pure (f x y)

/-- Applies a rule to two integers. -/
def onIntegers (op : String) (a b : Value) (f : Int64 → Int64 → Option Int64) :
    Except Fault Value := do
  let x ← integerOf op a
  let y ← integerOf op b
  pure (.ofInt64? (f x y))

/-- Applies a rule to two durations. -/
def onDurations (op : String) (a b : Value) (f : Float → Float → Bool) :
    Except Fault Value := do
  let x ← durationOf op a
  let y ← durationOf op b
  pure (.ofBool (f x y))

/-- Applies a rule to two texts. -/
def onTexts (op : String) (a b : Value) (f : String → String → Bool) : Except Fault Value := do
  let x ← stringOf op a
  let y ← stringOf op b
  pure (.ofBool (f x y))

/-- The value of an operator for the values of its operands. -/
def BinaryOp.apply (op : BinaryOp) (store : Store) (a b : Value) : Except Fault Value :=
  match op with
  | member => unlessEitherNull a b fun _ => do
    let (s, c) ← elementAndContainer op.name a b
    pure (.ofBool (c.contains s))
  | delete => unlessEitherNull a b fun _ => do
    let (s, c) ← elementAndContainer op.name a b
    pure (rebuild b (c.erase s))
  | contains => unlessEitherNull a b fun _ => containsAll op.name a b
  | matching => unlessEitherNull a b fun _ => matchValues op.name a b
  | stringMatch caseSensitive part => unlessEitherNull a b fun _ =>
    onTexts op.name a b fun a b => matchTexts caseSensitive part a b
  | substring caseSensitive => unlessEitherNull a b fun _ =>
    onTexts op.name a b fun needle text => matchTexts caseSensitive true text needle
  | equal mode tolerance includeLower includeUpper => unlessEitherNull a b fun _ => do
    let x ← numberOf op.name a
    let y ← numberOf op.name b
    match ← resolveWindow op.name store mode tolerance includeLower includeUpper with
    | none => pure .null
    | some window => pure (.ofBool (equalWithin window x y))
  | equalRounded mode figures => do
    match ← figures.resolve op.name store with
    | none => pure .null
    | some figures => unlessEitherNull a b fun _ => do
      let x ← numberOf op.name a
      let y ← numberOf op.name b
      checkFigures op.name mode figures
      equalAfterRounding mode figures x y
  | compare c => unlessEitherNull a b fun _ =>
    onNumbers op.name a b fun x y =>
      match x.compare? y with
      | some o => .ofBool (c.accepts o)
      | none => .null
  | durationLT => unlessEitherNull a b fun _ =>
    onDurations op.name a b fun x y => decide (x < y)
  | durationGTE => unlessEitherNull a b fun _ =>
    onDurations op.name a b fun x y => decide (y ≤ x)
  | subtract => unlessEitherNull a b fun _ => onNumbers op.name a b subtractNumbers
  | divide => unlessEitherNull a b fun _ => onNumbers op.name a b divideNumbers
  | power => unlessEitherNull a b fun _ =>
    onNumbers op.name a b fun x y => .ofFloat (x.toFloat.pow y.toFloat)
  | integerDivide => unlessEitherNull a b fun _ => onIntegers op.name a b floorDiv?
  | integerModulus => unlessEitherNull a b fun _ => onIntegers op.name a b floorMod?

end Assessment
