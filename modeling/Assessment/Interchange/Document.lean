import Assessment.Document
import Assessment.Interchange.Declaration
import Assessment.Interchange.Program

/-!
# Reading items, tests and sessions

Item and test documents (`RawItemDocument`, `RawTestDocument`) have no fields but their own; a
session leaves fields it does not know unread. The variables of a session are read like
declarations, but with a value in place of a default.
-/

namespace Assessment.Interchange

open Reading

/-! ## Documents -/

/-- The fields of an item document. -/
def itemFields : List String :=
  ["identifier", "responseDeclarations", "outcomeDeclarations", "templateDeclarations",
    "templateProcessing", "responseProcessing"]

/-- Reads an item document. -/
def itemDocument : Decoder ItemDocument :=
  record itemFields (closed itemFields
    (ItemDocument.mk <$> option "identifier" text
      <*> list "responseDeclarations" responseDeclaration
      <*> list "outcomeDeclarations" outcomeDeclaration
      <*> list "templateDeclarations" templateDeclaration
      <*> option "templateProcessing" (listOf statement)
      <*> option "responseProcessing" (listOf statement)))

/-- The fields of a test document. -/
def testFields : List String := ["identifier", "outcomeDeclarations", "outcomeProcessing"]

/-- Reads a test document. -/
def testDocument : Decoder TestDocument :=
  record testFields (closed testFields
    (TestDocument.mk <$> option "identifier" text
      <*> list "outcomeDeclarations" outcomeDeclaration
      <*> option "outcomeProcessing" (listOf statement)))

/-- Reads a candidate's responses. -/
def responses : Decoder (Table Json) := tableOf raw

/-! ## Sessions -/

/-- A session variable for the JSON of its value and its correct response. -/
def sessionVariableOf (c : Cardinality) (t : Option BaseType) (value correct : Json)
    (normalMinimum normalMaximum : Option Float) : Except Fault SessionVariable := do
  let value ← Value.ofJson value c t
  let correct ← Value.ofJson correct c t
  pure ⟨⟨c, t⟩, value, correct, normalMinimum, normalMaximum⟩

/-- Reads a variable of an item's result. -/
def sessionVariable : Decoder SessionVariable :=
  record ["cardinality", "baseType", "value", "correctResponse", "normalMinimum",
      "normalMaximum"]
    (((fun c t value correct low high => sessionVariableOf c t value correct low high)
      <$> required "cardinality" (choice Cardinality.ofName?)
      <*> option "baseType" (choice BaseType.ofName?) <*> optional "value" .null raw
      <*> optional "correctResponse" .null raw <*> option "normalMinimum" number
      <*> option "normalMaximum" number).andThen orFault)

/-- Reads the result of an item. -/
def itemSession : Decoder ItemSession :=
  record ["identifier", "sections", "categories", "weights", "selected", "presented",
      "responded", "variables"]
    (ItemSession.mk <$> required "identifier" text <*> list "sections" text
      <*> list "categories" text <*> optional "weights" .empty (tableOf number)
      <*> optional "selected" true bool <*> optional "presented" true bool
      <*> optional "responded" true bool <*> optional "variables" .empty (tableOf sessionVariable))

/-- Reads a session. -/
def testSession : Decoder TestSession :=
  record ["items"] (TestSession.mk <$> list "items" itemSession)

end Assessment.Interchange
