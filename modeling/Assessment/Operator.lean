import Assessment.Value.Basic
import Assessment.Text.Debug
import Assessment.Text.Lowercase

/-!
# Custom operators

Operators beyond those of the language, which are its one point of extension (section B.1 of the
specification), are registered under a class and a definition, either of which may be missing:
`OperatorKey` and `OperatorRegistry`. An operator is found under both first; failing that, one
registered for the whole class serves every definition of it (`resolve`).

* An operator gets the values of its operands and nothing else; it gives a value or a reason.
  Neither a missing operator nor a failed one is a fault of the program: the expression gives NULL
  and records a diagnostic.
* A second operator under one key takes the place of the first, as in a map, so `size` counts keys.
* `keyTexts` and `debugText` are the `Debug` form of a registry. The keys in it are sorted, since
  the map of the program has no order.
-/

namespace Assessment

/-- What an operator is registered under. -/
structure OperatorKey where
  operatorClass : Option String
  definition : Option String
deriving DecidableEq, Repr

/-- The text of a key. -/
def OperatorKey.text (k : OperatorKey) : String :=
  k.operatorClass.getD "" ++ "#" ++ k.definition.getD ""

/-- An operator gives a value to evaluated operands, or says why it fails. -/
abbrev Operator := List Value → Except String Value

/-- Operators with their keys, each key once. -/
structure Registry where
  entries : List (OperatorKey × Operator)

namespace Registry

/-- The registry without operators. -/
def empty : Registry := ⟨[]⟩

/-- Puts an operator in place of the one with its key, or after all others. -/
def insertEntry (key : OperatorKey) (op : Operator) :
    List (OperatorKey × Operator) → List (OperatorKey × Operator)
  | [] => [(key, op)]
  | (k, o) :: rest => if k = key then (key, op) :: rest else (k, o) :: insertEntry key op rest

/-- The registry with an operator (`OperatorRegistry::register`). -/
def register (r : Registry) (key : OperatorKey) (op : Operator) : Registry :=
  ⟨insertEntry key op r.entries⟩

/-- The operator of a key. -/
def find? (r : Registry) (key : OperatorKey) : Option Operator :=
  (r.entries.find? fun e => e.1 = key).map (·.2)

/-- The operator for a class and a definition: theirs, or the one of the whole class
(`OperatorRegistry::resolve`). -/
def resolve? (r : Registry) (key : OperatorKey) : Option Operator :=
  match r.find? key with
  | some op => some op
  | none =>
    if key.definition.isSome && key.operatorClass.isSome then
      r.find? ⟨key.operatorClass, none⟩
    else none

/-- How many operators there are. -/
def size (r : Registry) : Nat := r.entries.length

/-- Whether there is no operator. -/
def isEmpty (r : Registry) : Bool := r.entries.isEmpty

/-- The texts of the keys, in order. -/
def keyTexts (r : Registry) : List String :=
  (r.entries.map fun e => e.1.text).mergeSort fun a b => a ≤ b

/-- The registry as it is shown to a maintainer: the `Debug` form of `OperatorRegistry`. -/
def debugText (r : Registry) : String :=
  "OperatorRegistry \x7b operators: [" ++ ", ".intercalate (r.keyTexts.map Text.quoted) ++ "] \x7d"

end Registry

end Assessment
