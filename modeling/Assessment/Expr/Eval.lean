import Assessment.Environment
import Assessment.Expr.Variadic

/-!
# Evaluation

`Expr.eval` gives the value of an expression for a store: `eval_expr`. Operands are evaluated from
left to right, and a fault in one ends the evaluation. Conditions of the data alone give NULL.

* `and` and `or` evaluate operands up to the first that decides; operands that count as NULL leave
  the result open. anyN evaluates all and counts.
* A repetition looks at its count, and a function at the number of its operands, before it evaluates
  one.
* Only a draw changes the random source, and only a custom operator records diagnostics.
* A name that no variable has may be a dotted one, `ITEM.VAR`, which refers to the session; without
  a session it is undeclared.
* The nodes for a test (`SessionQuery`) ask the session, and are a fault without one.

The recursion is on the expression, with `evalAll`, `evalJunction` and `countTrue` for its lists.
-/

namespace Assessment

open Numeric

/-! ## Variables -/

/-- The parts of a text around its first point. -/
def splitAtPoint? : List Char → Option (List Char × List Char)
  | [] => none
  | c :: rest =>
    if c == '.' then some ([], rest)
    else (splitAtPoint? rest).map fun (before, after) => (c :: before, after)

/-- The item and the variable that a dotted name means. -/
def dottedName? (id : String) : Option (String × String) :=
  (splitAtPoint? id.toList).map fun (item, name) => (String.ofList item, String.ofList name)

/-- The value of a name: that of the declared variable, or of a session's item when the name is
dotted. -/
def variableValue (session : Option TestSession) (store : Store) (id : String)
    (weight : Option String) : Except Fault Value :=
  if store.isDeclared id then store.value id
  else
    match dottedName? id, session with
    | some (item, name), some s => .ok (s.itemVariable item name weight)
    | _, _ => store.value id

/-- The score of a response variable by its mapping. -/
def mappedValue (store : Store) (id : String) : Except Fault Value := do
  let r ← store.response id
  match r.mapping with
  | none => .error (.missingMapping id "mapping")
  | some m => (m.apply id r.value).map Value.ofFloat

/-- The score of a response variable by its area mapping. -/
def mappedPoint (store : Store) (id : String) : Except Fault Value := do
  let r ← store.response id
  match r.areaMapping with
  | none => .error (.missingMapping id "area mapping")
  | some m => (m.apply id r.value).map Value.ofFloat

/-! ## Tests -/

/-- The answer of a session to a query about the items that a filter passes. -/
def SessionQuery.answer (q : SessionQuery) (s : TestSession) (f : ItemFilter) :
    Except Fault Value :=
  match q with
  | .values id t weight => s.values f id t weight
  | .bounds b id weight => s.bounds f id b weight
  | .count c => .ok (.ofInt64 (Int64.ofNat (s.count f c)))

/-! ## Draws -/

/-- The integers `low`, `low + step`, … up to `low + steps * step`. -/
structure Grid where
  low : Int64
  step : Int64
  steps : Int64
deriving DecidableEq

/-- The integer of a grid after `k` steps. -/
def Grid.point (g : Grid) (k : Int64) : Value :=
  .ofInt64? ((mul? k g.step).bind fun offset => add? g.low offset)

/-- The grid between two ends; `none` for a reversed or too wide range. -/
def gridBetween (low high step : Int64) : Option Grid :=
  if high.toInt < low.toInt then none
  else do
    let span ← sub? high low
    let steps ← fit? (Int.tdiv span.toInt step.toInt)
    pure ⟨low, step, steps⟩

/-- The grid of a random integer; `none` when an attribute counts as NULL or nothing is in range. -/
def resolveGrid (store : Store) (min max step : IntegerAttribute) :
    Except Fault (Option Grid) := do
  let min ← min.resolve "randomInteger" store
  let max ← max.resolve "randomInteger" store
  let step ← step.resolve "randomInteger" store
  match min, max, step with
  | some low, some high, some step =>
    if step.toInt < 1 then
      .error (.invalidAttribute "randomInteger"
        ("step must be positive, got " ++ Text.integerText step.toInt))
    else pure (gridBetween low high step)
  | _, _, _ => pure none

/-- The range of a random float; `none` when an end counts as NULL or the range is reversed. -/
def resolveRange (store : Store) (min max : FloatAttribute) :
    Except Fault (Option (Float × Float)) := do
  let min ← min.resolve "randomFloat" store
  let max ← max.resolve "randomFloat" store
  match min, max with
  | some low, some high => pure (if high < low then none else some (low, high))
  | _, _ => pure none

/-- Draws an integer of a grid. -/
def drawFrom {σ : Type} (env : Environment σ) : Option Grid → Eval σ Value
  | none => pure .null
  | some g => do
    let k ← Eval.drawInteger env 0 g.steps
    pure (g.point k)

/-- Draws a float of a range. -/
def drawWithin {σ : Type} (env : Environment σ) : Option (Float × Float) → Eval σ Value
  | none => pure .null
  | some (low, high) => do
    let x ← Eval.drawFloat env low high
    pure (.ofFloat x)

/-- Draws an element of a container. -/
def drawElement {σ : Type} (env : Environment σ) (v : Value) : Eval σ Value :=
  if v.isNull then pure .null
  else do
    let c ← Eval.ofExcept (containerOf "random" v)
    let i ← Eval.drawInteger env 0 (Int64.ofInt (c.size - 1))
    pure (.ofScalar? (elementAt c.items (i + 1)))

/-! ## Counting -/

/-- Whether the number of true operands lies between two bounds: NULL where it depends on the
operands that count as NULL. -/
def countBetween (min max : Int64) (trues nulls : Nat) : Value :=
  let least : Int := trues
  let most : Int := trues + nulls
  if max.toInt < least || most < min.toInt then .ofBool false
  else if min.toInt ≤ least && most ≤ max.toInt then .ofBool true
  else .null

/-- The bounds of a count; `none` when one counts as NULL. -/
def resolveBounds (store : Store) (min max : IntegerAttribute) :
    Except Fault (Option (Int64 × Int64)) := do
  let min ← min.resolve "anyN" store
  let max ← max.resolve "anyN" store
  pure (min.bind fun min => max.map fun max => (min, max))

/-! ## Custom operators -/

/-- The value of a custom operator; NULL with a diagnostic when it is unknown or fails. -/
def applyCustom {σ : Type} (env : Environment σ) (key : OperatorKey) (vs : List Value) :
    Eval σ Value :=
  match env.operators.resolve? key with
  | none => do
    Eval.record (.unresolvedOperator key.operatorClass key.definition)
    pure .null
  | some op =>
    match op vs with
    | .ok v => pure v
    | .error failure => do
      Eval.record (.operatorFailed key.text failure)
      pure .null

/-! ## Expressions -/

namespace Expr

variable {σ : Type}

mutual

/-- The value of an expression for a store (`eval_expr`). -/
def eval (env : Environment σ) (store : Store) : Expr → Eval σ Value
  | .literal s => pure (.single s)
  | .null => pure .null
  | .constant c => pure (.ofFloat c.value)
  | .variable id weight => Eval.ofExcept (variableValue env.session store id weight)
  | .correct id => Eval.ofExcept (store.correct id)
  | .default id => Eval.ofExcept (store.default id)
  | .mapResponse id => Eval.ofExcept (mappedValue store id)
  | .mapResponsePoint id => Eval.ofExcept (mappedPoint store id)
  | .randomInteger min max step => do
    let grid ← Eval.ofExcept (resolveGrid store min max step)
    drawFrom env grid
  | .randomFloat min max => do
    let range ← Eval.ofExcept (resolveRange store min max)
    drawWithin env range
  | .lookup table source => do
    let v ← eval env store source
    Eval.ofExcept (table.resolve v)
  | .session query filter => do
    let s ← Eval.ofExcept (env.requireSession query.name)
    Eval.ofExcept (query.answer s filter)
  | .random operand => do
    let v ← eval env store operand
    drawElement env v
  | .unary op operand => do
    let v ← eval env store operand
    Eval.ofExcept (op.apply env.patterns store v)
  | .binary op left right => do
    let a ← eval env store left
    let b ← eval env store right
    Eval.ofExcept (op.apply store a b)
  | .variadic op operands => do
    let vs ← evalAll env store operands
    Eval.ofExcept (op.apply vs)
  | .repetition count operands => do
    match ← Eval.ofExcept (count.resolve "repeat" store) with
    | none => pure .null
    | some n =>
      let vs ← evalAll env store operands
      Eval.ofExcept (repeatValues "repeat" n vs)
  | .junction j operands => evalJunction env store j false operands
  | .anyN min max operands => do
    match ← Eval.ofExcept (resolveBounds store min max) with
    | none => pure .null
    | some (min, max) =>
      let (trues, nulls) ← countTrue env store operands
      pure (countBetween min max trues nulls)
  | .function f operands => do
    Eval.ofExcept (checkArity "mathOperator" f operands.length)
    let vs ← evalAll env store operands
    Eval.ofExcept (functionValue "mathOperator" f vs)
  | .custom key operands => do
    let vs ← evalAll env store operands
    applyCustom env key vs

/-- The values of expressions, one after the other (`eval_all`). -/
def evalAll (env : Environment σ) (store : Store) : List Expr → Eval σ (List Value)
  | [] => pure []
  | e :: rest => do
    let v ← eval env store e
    let vs ← evalAll env store rest
    pure (v :: vs)

/-- The value of a junction, `sawNull` telling whether an earlier operand counted as NULL. -/
def evalJunction (env : Environment σ) (store : Store) (j : Junction) (sawNull : Bool) :
    List Expr → Eval σ Value
  | [] => pure (if sawNull then .null else .ofBool (!j.decisive))
  | e :: rest => do
    let v ← eval env store e
    if v.isNull then evalJunction env store j true rest
    else
      let b ← Eval.ofExcept (booleanOf j.name v)
      if b == j.decisive then pure (.ofBool b) else evalJunction env store j sawNull rest

/-- How many operands are true, and how many count as NULL. -/
def countTrue (env : Environment σ) (store : Store) : List Expr → Eval σ (Nat × Nat)
  | [] => pure (0, 0)
  | e :: rest => do
    let v ← eval env store e
    if v.isNull then
      let (trues, nulls) ← countTrue env store rest
      pure (trues, nulls + 1)
    else
      let b ← Eval.ofExcept (booleanOf "anyN" v)
      let (trues, nulls) ← countTrue env store rest
      pure (if b then trues + 1 else trues, nulls)

end

end Expr

end Assessment
