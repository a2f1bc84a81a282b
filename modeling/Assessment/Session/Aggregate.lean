import Assessment.Session.Basic

/-!
# Aggregation over the items of a test

A filter picks items by section and category (`ItemFilter`, with `matches` and `select`; section
B.4.4 of the specification). The expressions on a test collect a variable or a normal bound over the
selected items that pass, or count them: `test_variables`, `outcome_bounds` and `count`.

* A single number is multiplied by the weight of its item (`weighted`), in doubles and without a
  check that the product is finite.
* `itemVariable` is what a dotted name `ITEM.VAR` refers to (`item_variable`).
* One item without the bound that is asked for makes the whole result NULL.
-/

namespace Assessment

/-- A choice of items: those of a section, with one of some categories, with none of others. -/
structure ItemFilter where
  within : Option String
  includeCategories : List String
  excludeCategories : List String
deriving DecidableEq, Repr

/-- Which normal bound is collected. -/
inductive Bound where
  | minimum
  | maximum
deriving DecidableEq, Repr

/-- Which of the selected items are counted. -/
inductive ItemCount where
  | selected
  | presented
  | responded
  | correct
  | incorrect
deriving DecidableEq, Repr

/-- Whether a filter passes an item (`ItemFilter::matches`). -/
def ItemFilter.passes (f : ItemFilter) (i : ItemSession) : Bool :=
  (match f.within with
    | some s => i.sections.contains s
    | none => true)
  && (f.includeCategories.isEmpty || i.categories.any fun c => f.includeCategories.contains c)
  && !(i.categories.any fun c => f.excludeCategories.contains c)

namespace TestSession

/-- The selected items that a filter passes, in the order of the test (`select`). -/
def select (s : TestSession) (f : ItemFilter) : List ItemSession :=
  s.items.filter fun i => i.selected && f.passes i

/-- A numeric scalar times a weight other than one; any other scalar as it is (`weighted`). -/
def weighted (s : Scalar) (weight : Float) : Scalar :=
  match s.toFloat? with
  | some x => if weight == 1.0 then s else .float (x * weight)
  | none => s

/-- A variable of an item, weighted when it is single; NULL without the item or the variable
(`item_variable`). -/
def itemVariable (s : TestSession) (item id : String) (weight : Option String) : Value :=
  match s.item? item with
  | none => .null
  | some i =>
    match i.value id, weight with
    | .single x, some w => .single (weighted x (i.weight w))
    | v, _ => v

/-- The single value of a variable of an item, weighted; `none` when it is of another base type
than one asked for. -/
def collected? (id : String) (t : Option BaseType) (weight : Option String) (i : ItemSession) :
    Option Scalar :=
  match i.value id with
  | .single s =>
    if t.any fun t => t != s.baseType then none else some (weighted s (i.weightOf weight))
  | _ => none

/-- Scalars as the elements of a multiset, integers among floats as floats. -/
def multisetOf : List Scalar → Except Fault Value
  | [] => .ok .null
  | s :: rest =>
    let values := s :: rest
    if values.any (fun v => v.baseType = .float) && values.all (fun v => v.toFloat?.isSome) then
      (Container.ofList .float (values.map widenScalar)).map .multiple
    else (Container.ofList s.baseType values).map .multiple

/-- The single values of a variable over the items that a filter passes, in their order
(`test_variables`). -/
def values (s : TestSession) (f : ItemFilter) (id : String) (t : Option BaseType)
    (weight : Option String) : Except Fault Value :=
  multisetOf ((s.select f).filterMap (collected? id t weight))

/-- A normal bound of an outcome variable of an item. -/
def declaredBound? (b : Bound) (id : String) (i : ItemSession) : Option Float :=
  (i.results.get? id).bind fun v =>
    match b with
    | .minimum => v.normalMinimum
    | .maximum => v.normalMaximum

/-- The weighted normal bounds of an outcome variable over the items that a filter passes; NULL
without items and when one of them lacks the bound (`outcome_bounds`). -/
def bounds (s : TestSession) (f : ItemFilter) (id : String) (b : Bound)
    (weight : Option String) : Except Fault Value :=
  let declared := (s.select f).mapM fun i =>
    (declaredBound? b id i).map fun x => Scalar.float (x * i.weightOf weight)
  match declared with
  | none | some [] => .ok .null
  | some values => (Container.ofList .float values).map .multiple

/-- Whether an item is counted. -/
def counts (c : ItemCount) (i : ItemSession) : Bool :=
  match c with
  | .selected => true
  | .presented => i.presented
  | .responded => i.responded
  | .correct => i.isCorrect
  | .incorrect => i.responded && !i.isCorrect

/-- How many of the items that a filter passes are counted (`count`). -/
def count (s : TestSession) (f : ItemFilter) (c : ItemCount) : Nat :=
  ((s.select f).filter (counts c)).length

end TestSession

end Assessment
