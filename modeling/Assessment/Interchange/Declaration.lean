import Assessment.Interchange.Tables
import Assessment.Variable.Basic

/-!
# Reading declarations

A declaration gives a variable its name, its signature and its default: the conversions from
`RawResponseDeclaration`, `RawOutcomeDeclaration` and `RawTemplateDeclaration`. A record has no base
type and every other cardinality has one (`check_signature`). That is checked first, then the tables
and mappings, then the default, then the correct response; each of them must fit the signature.
-/

namespace Assessment.Interchange

open Reading

/-- What every declaration says. -/
structure DeclarationDraft where
  identifier : String
  cardinality : Cardinality
  baseType : Option BaseType
  default : Json

/-- Reads what every declaration says. -/
def declarationDraft : Reading DeclarationDraft :=
  DeclarationDraft.mk <$> required "identifier" text
    <*> required "cardinality" (choice Cardinality.ofName?)
    <*> option "baseType" (choice BaseType.ofName?) <*> optional "defaultValue" .null raw

/-- The fault of a signature that lacks its base type, or has one too many (`check_signature`). -/
def signatureFault (identifier expected got : String) : Fault :=
  .baseTypeMismatch ("declaration of '" ++ identifier ++ "'") expected got

namespace DeclarationDraft

/-- The signature, checked. -/
def signature (d : DeclarationDraft) : Except Fault Signature :=
  match d.cardinality, d.baseType with
  | .record, some t =>
    .error (signatureFault d.identifier "no base type for record cardinality" t.name)
  | .record, none => .ok ⟨.record, none⟩
  | c, some t => .ok ⟨c, some t⟩
  | c, none =>
    .error (signatureFault d.identifier ("a base type for " ++ c.name ++ " cardinality") "none")

/-- The slot of the variable. -/
def slot (d : DeclarationDraft) : Except Fault Slot := do
  let v ← Value.ofJson d.default d.cardinality d.baseType
  pure (.ofDefault ⟨d.cardinality, d.baseType⟩ v)

/-- The mapping of a response variable. -/
def mapping (d : DeclarationDraft) : Option MappingDraft → Except Fault (Option Mapping)
  | none => .ok none
  | some m =>
    match d.baseType with
    | none => .error (.missingMapping d.identifier "base type for its mapping keys")
    | some t => (m.ofType t).map some

/-- The lookup table of an outcome variable. -/
def lookupTable (d : DeclarationDraft) : Option LookupDraft → Except Fault (Option LookupTable)
  | none => .ok none
  | some table =>
    match d.baseType with
    | none => .error (.missingLookupTable d.identifier)
    | some t => (table.ofType t).map some

/-- The response variable. -/
def response (d : DeclarationDraft) (correct : Json) (mapping : Option MappingDraft)
    (areaMapping : Option AreaMapping) : Except Fault (Declaration ResponseVariable) := do
  let _ ← d.signature
  let mapping ← d.mapping mapping
  let slot ← d.slot
  let correct ← Value.ofJson correct d.cardinality d.baseType
  pure ⟨d.identifier, { slot with correct, mapping, areaMapping }⟩

/-- The outcome variable. -/
def outcome (d : DeclarationDraft) (table : Option LookupDraft)
    (normalMinimum normalMaximum : Option Float) : Except Fault (Declaration OutcomeVariable) := do
  let _ ← d.signature
  let lookupTable ← d.lookupTable table
  let slot ← d.slot
  pure ⟨d.identifier, { slot with lookupTable, normalMinimum, normalMaximum }⟩

/-- The template variable. -/
def template (d : DeclarationDraft) : Except Fault (Declaration TemplateVariable) := do
  let _ ← d.signature
  let slot ← d.slot
  pure ⟨d.identifier, { slot with }⟩

end DeclarationDraft

/-- Reads the declaration of a response variable. -/
def responseDeclaration : Decoder (Declaration ResponseVariable) :=
  record ["identifier", "cardinality", "baseType", "defaultValue", "correctResponse", "mapping",
      "areaMapping"]
    (((fun d correct mapping areas => (d, correct, mapping, areas)) <$> declarationDraft
      <*> optional "correctResponse" .null raw <*> option "mapping" mappingDraft
      <*> option "areaMapping" areaMapping).andThen
        fun (d, correct, mapping, areas) => orFault (d.response correct mapping areas))

/-- Reads the declaration of an outcome variable. -/
def outcomeDeclaration : Decoder (Declaration OutcomeVariable) :=
  record ["identifier", "cardinality", "baseType", "defaultValue", "lookupTable",
      "normalMinimum", "normalMaximum"]
    (((fun d table low high => (d, table, low, high)) <$> declarationDraft
      <*> option "lookupTable" lookupDraft <*> option "normalMinimum" number
      <*> option "normalMaximum" number).andThen
        fun (d, table, low, high) => orFault (d.outcome table low high))

/-- Reads the declaration of a template variable; its two flags are for the delivery of the item. -/
def templateDeclaration : Decoder (Declaration TemplateVariable) :=
  record ["identifier", "cardinality", "baseType", "defaultValue", "mathVariable",
      "paramVariable"]
    (((fun d (_ _ : Bool) => d) <$> declarationDraft <*> optional "mathVariable" false bool
      <*> optional "paramVariable" false bool).andThen fun d => orFault d.template)

end Assessment.Interchange
