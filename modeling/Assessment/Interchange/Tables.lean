import Assessment.Interchange.Reading
import Assessment.Lookup
import Assessment.Mapping

/-!
# Reading lookup tables and mappings

The targets of a lookup table and the keys of a mapping are values of a base type that stands
elsewhere: in the declaration around them, or in an inline table beside them. A draft holds them as
JSON until the base type is known (`RawLookupTable` with `resolve`, `RawMapping`).
-/

namespace Assessment.Interchange

open Reading

/-! ## Lookup tables -/

/-- A lookup table before the base type of its targets is known. -/
inductive LookupDraft where
  | matching (default : Option Json) (entries : List (Int64 × Json))
  | interpolation (default : Option Json) (entries : List (Float × Bool × Json))

/-- Reads an entry of a match table. -/
def matchEntry : Decoder (Int64 × Json) :=
  record ["sourceValue", "targetValue"]
    (Prod.mk <$> required "sourceValue" integer <*> required "targetValue" raw)

/-- Reads an entry of an interpolation table, whose boundary belongs to it unless it says not. -/
def interpolationEntry : Decoder (Float × Bool × Json) :=
  record ["sourceValue", "includeBoundary", "targetValue"]
    ((fun bound inclusive target => (bound, inclusive, target)) <$> required "sourceValue" number
      <*> optional "includeBoundary" true bool <*> required "targetValue" raw)

/-- Reads a lookup table of a type. -/
def lookupDraftOf (type : String) : Option (Reading LookupDraft) :=
  match type with
  | "matchTable" => some (LookupDraft.matching <$> option "defaultValue" raw
      <*> required "entries" (listOf matchEntry))
  | "interpolationTable" => some (LookupDraft.interpolation <$> option "defaultValue" raw
      <*> required "entries" (listOf interpolationEntry))
  | _ => none

/-- Reads a lookup table. -/
def lookupDraft : Decoder LookupDraft := tagged "type" text lookupDraftOf

/-- Reads the lookup table of an expression. -/
def innerLookupDraft : Decoder LookupDraft :=
  tagged "type" (innerName ["matchTable", "interpolationTable"]) lookupDraftOf

/-- The default target of a base type. -/
def defaultTarget (t : BaseType) : Option Json → Except Fault (Option Scalar)
  | none => .ok none
  | some j => (Scalar.ofJson t j).map some

/-- The entries of a match table with targets of a base type. -/
def matchTargets (t : BaseType) : List (Int64 × Json) → Except Fault (List MatchEntry)
  | [] => .ok []
  | (source, target) :: rest => do
    let target ← Scalar.ofJson t target
    let more ← matchTargets t rest
    pure (⟨source, target⟩ :: more)

/-- The entries of an interpolation table with targets of a base type. -/
def interpolationTargets (t : BaseType) :
    List (Float × Bool × Json) → Except Fault (List InterpolationEntry)
  | [] => .ok []
  | (bound, inclusive, target) :: rest => do
    let target ← Scalar.ofJson t target
    let more ← interpolationTargets t rest
    pure (⟨bound, inclusive, target⟩ :: more)

/-- The lookup table with targets of a base type (`RawLookupTable::resolve`). -/
def LookupDraft.ofType (t : BaseType) : LookupDraft → Except Fault LookupTable
  | .matching default entries => do
    let default ← defaultTarget t default
    let entries ← matchTargets t entries
    pure (.matching default entries)
  | .interpolation default entries => do
    let default ← defaultTarget t default
    let entries ← interpolationTargets t entries
    pure (.interpolation default entries)

/-! ## Mappings -/

/-- A mapping before the base type of its keys is known. -/
structure MappingDraft where
  lowerBound : Option Float
  upperBound : Option Float
  defaultValue : Float
  entries : List (Json × Float × Bool)

/-- Reads an entry of a mapping, whose key minds the case unless it says not. -/
def mapEntry : Decoder (Json × Float × Bool) :=
  record ["mapKey", "mappedValue", "caseSensitive"]
    ((fun key x caseSensitive => (key, x, caseSensitive)) <$> required "mapKey" raw
      <*> required "mappedValue" number <*> optional "caseSensitive" true bool)

/-- Reads a mapping. -/
def mappingDraft : Decoder MappingDraft :=
  record ["lowerBound", "upperBound", "defaultValue", "entries"]
    (MappingDraft.mk <$> option "lowerBound" number <*> option "upperBound" number
      <*> optional "defaultValue" 0.0 number <*> list "entries" mapEntry)

/-- The entries of a mapping with keys of a base type. -/
def mapKeys (t : BaseType) : List (Json × Float × Bool) → Except Fault (List MapEntry)
  | [] => .ok []
  | (key, x, caseSensitive) :: rest => do
    let key ← Scalar.ofJson t key
    let more ← mapKeys t rest
    pure (⟨key, x, caseSensitive⟩ :: more)

/-- The mapping with keys of a base type. -/
def MappingDraft.ofType (t : BaseType) (m : MappingDraft) : Except Fault Mapping := do
  let entries ← mapKeys t m.entries
  pure ⟨m.lowerBound, m.upperBound, m.defaultValue, entries⟩

/-- Reads an area with its number. -/
def areaMapEntry : Decoder AreaMapEntry :=
  record ["shape", "coords", "mappedValue"]
    (AreaMapEntry.mk <$> required "shape" (choice Shape.ofName?)
      <*> optional "coords" [] coordinates <*> required "mappedValue" number)

/-- Reads an area mapping. -/
def areaMapping : Decoder AreaMapping :=
  record ["lowerBound", "upperBound", "defaultValue", "entries"]
    (AreaMapping.mk <$> option "lowerBound" number <*> option "upperBound" number
      <*> optional "defaultValue" 0.0 number <*> list "entries" areaMapEntry)

end Assessment.Interchange
