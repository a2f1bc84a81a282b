import Assessment.Lookup
import Assessment.Mapping

/-!
# Variables

Every variable has a signature, a declared default and a current value. A response variable also has
a correct response and may have mappings; an outcome variable may have a lookup table and normal
bounds (`ResponseDeclaration`, `OutcomeDeclaration`, `TemplateDeclaration` with their current
values). A declaration names a variable whose current value is its default.

`conform` fits a value to a signature, with the checks of `conform` in their order: NULL fits
everything, integers become floats where floats are asked for, and nothing else changes. What does
not fit is a fault of the cardinality or of the base type, and names the variable. Every write goes
through it, declared defaults and correct responses included.
-/

namespace Assessment

/-- What the values of a variable are; a record has no base type. -/
structure Signature where
  cardinality : Cardinality
  baseType : Option BaseType
deriving DecidableEq, Repr

/-- What every variable has. -/
structure Slot where
  signature : Signature
  default : Value
  value : Value
deriving DecidableEq

/-- A variable that holds a candidate's answer. -/
structure ResponseVariable extends Slot where
  correct : Value
  mapping : Option Mapping
  areaMapping : Option AreaMapping
deriving DecidableEq

/-- A variable that holds a result. -/
structure OutcomeVariable extends Slot where
  lookupTable : Option LookupTable
  normalMinimum : Option Float
  normalMaximum : Option Float
deriving DecidableEq

/-- A variable that holds a part of a generated item. -/
structure TemplateVariable extends Slot where
deriving DecidableEq

/-- A variable with its name. -/
structure Declaration (α : Type) where
  identifier : String
  declared : α
deriving DecidableEq

/-- A slot whose current value is its default. -/
def Slot.ofDefault (signature : Signature) (default : Value) : Slot :=
  ⟨signature, default, default⟩

/-- The slot with its default as current value. -/
def Slot.reset (s : Slot) : Slot := { s with value := s.default }

/-! ## Fitting a value to a signature -/

/-- A scalar as a float: an integer's double, and zero for what holds no number. -/
def widenScalar (s : Scalar) : Scalar := .float (s.toFloat?.getD 0.0)

/-- A container with all its elements as floats. -/
def Container.widen (c : Container) : Container :=
  ⟨.float, c.items.map widenScalar, by
    intro s hs
    obtain ⟨t, _, rfl⟩ := List.mem_map.1 hs
    rfl⟩

/-- The container for elements of a base type, when its own fits. -/
def Container.conform? (c : Container) (t : BaseType) : Option Container :=
  if c.baseType = .integer ∧ t = .float then some c.widen
  else if c.baseType = t then some c
  else none

/-- The scalar for a base type, when its own fits. -/
def Scalar.conform? (s : Scalar) (t : BaseType) : Option Scalar :=
  match s, t with
  | .integer n, .float => some (.float (Numeric.toFloat n))
  | s, t => if s.baseType = t then some s else none

/-- The value for a base type, when its own fits; NULL and records fit every one. -/
def Value.conform? (v : Value) (t : BaseType) : Option Value :=
  match v with
  | .single s => (s.conform? t).map .single
  | .multiple c => (c.conform? t).map .multiple
  | .ordered c => (c.conform? t).map .ordered
  | v => some v

/-- The value that a variable of a signature takes for a value given to it (`conform`). -/
def conform (identifier : String) (v : Value) (signature : Signature) : Except Fault Value :=
  let context := "variable '" ++ identifier ++ "'"
  if v.cardinality? = none then .ok v
  else if v.cardinality? ≠ some signature.cardinality then
    .error (.cardinalityMismatch context signature.cardinality.name v.describe)
  else
    match signature.baseType with
    | none => .ok v
    | some t =>
      match v.conform? t with
      | some w => .ok w
      | none => .error (.baseTypeMismatch context t.name v.describe)

end Assessment
