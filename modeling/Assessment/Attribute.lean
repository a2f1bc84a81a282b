import Assessment.Json.Printer
import Assessment.Text.Blank

/-!
# Numeric attributes

A numeric attribute of an operator is a number, or the name of a variable that holds it, alone or in
braces: `IntegerOrVariable` and `FloatOrVariable`, with `variable_ref` for the name (section B.4.1
of the specification lists the attributes).

* `IntegerAttribute.ofJson` and `FloatAttribute.ofJson` read one, and refuse with the text that the
  reader of a document passes on: `AttributeRefusal` has one constructor for each of the texts.
* A text is a name when what is left of it, without blanks and braces around it, is not empty and
  has no blank in it. It is not looked up here: resolving a name, and the difference between a
  variable that is NULL and one that holds no number, belong to the evaluation
  (`IntegerAttribute.resolve`).
-/

namespace Assessment

open Text Numeric

/-- An integer, or a variable that holds one. -/
inductive IntegerAttribute where
  | value (n : Int64)
  | variable (identifier : String)
deriving DecidableEq, Repr

/-- A float, or a variable that holds a number. -/
inductive FloatAttribute where
  | value (x : Float)
  | variable (identifier : String)
deriving DecidableEq

/-- Why a JSON value is no numeric attribute. -/
inductive AttributeRefusal where
  | notInteger (number : String)
  | notIntegerOrReference (json : String)
  | notNumberOrReference (json : String)
  | notReference (text : String)
deriving DecidableEq, Repr

/-- The wording of a refusal. -/
def AttributeRefusal.message : AttributeRefusal → String
  | .notInteger number => "expected an integer, got " ++ number
  | .notIntegerOrReference json => "expected an integer or variable reference, got " ++ json
  | .notNumberOrReference json => "expected a number or variable reference, got " ++ json
  | .notReference text => "'" ++ text ++ "' is not a number or variable reference"

/-- The text between braces around the whole; `none` where they do not stand there. -/
def insideBraces? (s : List Char) : Option (List Char) :=
  match s with
  | '\x7b' :: rest => if rest.getLast? = some '\x7d' then some rest.dropLast else none
  | _ => none

/-- The variable that a text names, alone or in braces, blanks around either left out
(`variable_ref`). -/
def readReference (s : String) : Except AttributeRefusal String :=
  let trimmed := trimChars s.toList
  let inner := trimChars ((insideBraces? trimmed).getD trimmed)
  if inner.isEmpty || inner.any isBlank then .error (.notReference (String.ofList trimmed))
  else .ok (String.ofList inner)

/-- The integer attribute that a JSON value gives (`IntegerOrVariable::try_from`). -/
def IntegerAttribute.ofJson (j : Json) : Except AttributeRefusal IntegerAttribute :=
  match j with
  | .int n =>
    match fit? n with
    | some i => .ok (.value i)
    | none => .error (.notInteger j.compact)
  | .float _ => .error (.notInteger j.compact)
  | .str s =>
    match readInt64? (trim s) with
    | some i => .ok (.value i)
    | none => (readReference s).map .variable
  | j => .error (.notIntegerOrReference j.compact)

/-- The float attribute that a JSON value gives (`FloatOrVariable::try_from`). -/
def FloatAttribute.ofJson (j : Json) : Except AttributeRefusal FloatAttribute :=
  match j with
  | .int n => .ok (.value (Float.ofInt n))
  | .float x => .ok (.value x)
  | .str s =>
    match readFinite? (trim s) with
    | some x => .ok (.value x)
    | none => (readReference s).map .variable
  | j => .error (.notNumberOrReference j.compact)

end Assessment
