import Assessment.Table

/-!
# JSON values

Numbers keep the form they were written in: `int` for a number without point and exponent, `float`
for every other. The fields of an object stand in a list; `normalize` puts them in key order, the
later of two fields with one key winning, and every object that the library builds is in that form.

A document is read from its fields as they stand in the text, where a field given twice is refused;
a part that is kept as a raw value (a default, a literal, a target of a table) is normalized first.
-/

namespace Assessment

/-- A JSON value. -/
inductive Json where
  | null
  | bool (b : Bool)
  | int (n : Int)
  | float (x : Float)
  | str (s : String)
  | arr (items : List Json)
  | obj (fields : List (String × Json))
deriving Inhabited

namespace Json

mutual

/-- The value with the fields of all its objects in key order and each key once. -/
def normalize : Json → Json
  | .arr items => .arr (normalizeItems items)
  | .obj fields => .obj (normalizeFields [] fields)
  | j => j

/-- `normalize` on every item of an array. -/
def normalizeItems : List Json → List Json
  | [] => []
  | j :: rest => normalize j :: normalizeItems rest

/-- The fields put one after the other into those already in order. -/
def normalizeFields (done : List (String × Json)) : List (String × Json) → List (String × Json)
  | [] => done
  | (k, j) :: rest => normalizeFields (Table.insertEntry k (normalize j) done) rest

end

/-- An object with its fields in key order. -/
def ofFields (fields : List (String × Json)) : Json :=
  .obj (Table.ofList fields).entries

/-- An object with a field for each entry of a table. -/
def ofTable (t : Table Json) : Json := .obj t.entries

/-- The value of a field; `none` without the field or outside an object. -/
def field? (key : String) : Json → Option Json
  | .obj fields => Table.find? key fields
  | _ => none

/-- Whether the value is `null`. -/
def isNull : Json → Bool
  | .null => true
  | _ => false

mutual

/-- How many arrays and objects stand around the innermost value. -/
def depth : Json → Nat
  | .arr items => itemsDepth items + 1
  | .obj fields => fieldsDepth fields + 1
  | _ => 0

/-- The greatest depth of the items. -/
def itemsDepth : List Json → Nat
  | [] => 0
  | j :: rest => max (depth j) (itemsDepth rest)

/-- The greatest depth of the fields. -/
def fieldsDepth : List (String × Json) → Nat
  | [] => 0
  | (_, j) :: rest => max (depth j) (fieldsDepth rest)

end

end Json

end Assessment
