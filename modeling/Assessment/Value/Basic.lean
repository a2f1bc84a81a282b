import Assessment.Text.Debug
import Assessment.Value.Container

/-!
# Values

A value is NULL, or has one of the four cardinalities: a single scalar, a multiset, a sequence, or a
record of named scalars (`Value`, section B.3 of the specification). Several values count as NULL in
expressions (`isNull`, which is `is_null`): NULL itself, the empty text, and a container or record
without elements. They still differ from each other, and are kept apart in variables.

* `same` is the equality of values: multisets in any order, sequences in order, records by field.
* `describe` and `text` are what messages and reports say of a value.
* `ofJson` reads a value for a declared cardinality and base type (`Value::from_json`); `toJson`
  writes it (`Value::to_json`). The fields of a record may stand as plain JSON values, or with a
  base type (`record_field_from_json`).
* `ofFloat?` builds a float that is finite, and NULL else (`Value::float`); arithmetic builds its
  results with it.

What `choiceRefusal` says of a base type that is none is the wording of the library that reads JSON,
which the message of the fault quotes.
-/

namespace Assessment

/-- A value of an expression or a variable. -/
inductive Value where
  | null
  | single (s : Scalar)
  /-- Without order, repetitions counted. -/
  | multiple (c : Container)
  /-- In order, repetitions kept. -/
  | ordered (c : Container)
  | record (fields : Table Scalar)
deriving DecidableEq

instance : Inhabited Value := ⟨.null⟩

namespace Value

/-- The single integer. -/
def ofInt64 (n : Int64) : Value := .single (.integer n)

/-- The single float; NULL when it is not finite (`Value::float`). -/
def ofFloat (x : Float) : Value := if x.isFinite then .single (.float x) else .null

/-- The single boolean. -/
def ofBool (b : Bool) : Value := .single (.boolean b)

/-- The single integer, NULL without one. -/
def ofInt64? : Option Int64 → Value
  | some n => ofInt64 n
  | none => .null

/-- The single float, NULL without one. -/
def ofFloat? : Option Float → Value
  | some x => ofFloat x
  | none => .null

/-- The single scalar, NULL without one. -/
def ofScalar? : Option Scalar → Value
  | some s => .single s
  | none => .null

/-- Whether a value counts as NULL: NULL, the empty text, or nothing inside (`Value::is_null`). -/
def isNull : Value → Bool
  | null => true
  | single (.string s) => s.isEmpty
  | single _ => false
  | multiple c | ordered c => c.isEmpty
  | record fields => fields.isEmpty

/-- The cardinality; NULL has none. -/
def cardinality? : Value → Option Cardinality
  | null => none
  | single _ => some .single
  | multiple _ => some .multiple
  | ordered _ => some .ordered
  | record _ => some .record

/-- The base type; NULL and records have none. -/
def baseType? : Value → Option BaseType
  | null => none
  | single s => some s.baseType
  | multiple c | ordered c => some c.baseType
  | record _ => none

/-- The container of a value with several elements. -/
def container? : Value → Option Container
  | multiple c | ordered c => some c
  | _ => none

/-- The kind of a value in words (`Value::describe`). -/
def describe : Value → String
  | null => "NULL"
  | single s => "single " ++ s.baseType.name
  | multiple c => "multiple " ++ c.baseType.name
  | ordered c => "ordered " ++ c.baseType.name
  | record _ => "record"

/-! ## Comparison -/

/-- Whether two lists of fields have the same names and the same values. -/
def sameFields : List (String × Scalar) → List (String × Scalar) → Bool
  | [], [] => true
  | (k, a) :: as, (l, b) :: bs => k == l && a.same b && sameFields as bs
  | _, _ => false

/-- Whether two values are the same: the elements of a `multiple` in any order. -/
def same : Value → Value → Bool
  | null, null => true
  | single a, single b => a.same b
  | multiple a, multiple b => a.sameElements b
  | ordered a, ordered b => a.sameSequence b
  | record a, record b => sameFields a.entries b.entries
  | _, _ => false

/-! ## Text -/

/-- The text of a value, multisets in braces, sequences in brackets, records in parentheses. -/
def text : Value → String
  | null => "NULL"
  | single s => s.text
  | multiple c => "\x7b" ++ ", ".intercalate (c.items.map Scalar.text) ++ "\x7d"
  | ordered c => "[" ++ ", ".intercalate (c.items.map Scalar.text) ++ "]"
  | record fields =>
    "(" ++ ", ".intercalate (fields.entries.map fun f => f.1 ++ ": " ++ f.2.text) ++ ")"

/-! ## JSON -/

/-- The JSON form of a field: its value with its base type. -/
def fieldToJson (s : Scalar) : Json :=
  .obj [("baseType", .str s.baseType.name), ("value", s.toJson)]

/-- The JSON form of a value (`Value::to_json`). -/
def toJson : Value → Json
  | null => .null
  | single s => s.toJson
  | multiple c | ordered c => .arr (c.items.map Scalar.toJson)
  | record fields => Json.ofTable (fields.map fun _ s => fieldToJson s)

/-- The name that a JSON value gives to a choice: a text, or an object of that name alone. -/
def choiceName? : Json → Option String
  | .str s => some s
  | .obj [(k, .null)] => some k
  | _ => none

/-- A JSON value in the words of its reader, where the reader expects something else. -/
def unexpected : Json → String
  | .null => "null"
  | .bool b => "boolean `" ++ Json.compact (.bool b) ++ "`"
  | .int n => "integer `" ++ Json.compact (.int n) ++ "`"
  | .float x => "floating point `" ++ Json.compact (.float x) ++ "`"
  | .str s => "string " ++ Text.quoted s
  | .arr _ => "sequence"
  | .obj _ => "map"

/-- What the reader of JSON says of a name that is not among those of a choice. -/
def unknownVariant (names : List String) (name : String) : String :=
  "unknown variant `" ++ name ++ "`, expected one of "
    ++ ", ".intercalate (names.map fun n => "`" ++ n ++ "`")

/-- What the reader of JSON says of a value that makes no choice among the given names. An object
must have the name for its only key, and null under it. -/
def choiceRefusal (names : List String) : Json → String
  | .str s => unknownVariant names s
  | .obj [(k, inner)] =>
    if names.contains k then "invalid type: " ++ unexpected inner ++ ", expected unit"
    else unknownVariant names k
  | .obj _ => "invalid value: map, expected map with a single key"
  | j => "invalid type: " ++ unexpected j ++ ", expected string or map"

/-- The value of a record's field: a plain number, text or boolean, or an object that names its base
type (`record_field_from_json`). A field that is null or has a null value is left out. -/
def fieldOfJson (j : Json) : Except Fault (Option Scalar) :=
  match j with
  | .null => .ok none
  | .bool b => .ok (some (.boolean b))
  | .int n =>
    match Numeric.fit? n with
    | some i => .ok (some (.integer i))
    | none => .ok (some (.float (Float.ofInt n)))
  | .float x => .ok (some (.float x))
  | .str s => .ok (some (.string s))
  | .arr _ => .error (.cardinalityMismatch "record field" "single" "array")
  | .obj fields =>
    match Table.find? "baseType" fields with
    | none => .error (.invalidAttribute "record" "record field object missing 'baseType'")
    | some t =>
      match (choiceName? t).bind BaseType.ofName? with
      | none => .error (.invalidAttribute "record"
          ("bad field baseType: " ++ choiceRefusal (BaseType.all.map BaseType.name) t))
      | some t =>
        match Table.find? "value" fields with
        | none | some .null => .ok none
        | some inner => (Scalar.ofJson t inner).map some

/-- The scalars of a list, refused at the first that does not hold one. -/
def scalarsOfJson (t : BaseType) : List Json → Except Fault (List Scalar)
  | [] => .ok []
  | j :: rest => do
    let s ← Scalar.ofJson t j
    let ss ← scalarsOfJson t rest
    pure (s :: ss)

/-- The fields of a record put one after the other into those read already. -/
def fieldsOfJson (done : Table Scalar) : List (String × Json) → Except Fault (Table Scalar)
  | [] => .ok done
  | (k, j) :: rest => do
    match ← fieldOfJson j with
    | some s => fieldsOfJson (done.insert k s) rest
    | none => fieldsOfJson done rest

/-- The base type that a value of a cardinality cannot do without. -/
def requireBaseType (c : Cardinality) : Option BaseType → Except Fault BaseType
  | some t => .ok t
  | none =>
    .error (.baseTypeMismatch "value literal" ("a base type for " ++ c.name ++ " cardinality")
      "none")

/-- The container that a JSON value holds: an array of scalars, or one scalar. -/
def containerOfJson (t : BaseType) (j : Json) : Except Fault Container := do
  let items ← match j with
    | .arr items => scalarsOfJson t items
    | j => (Scalar.ofJson t j).map fun s => [s]
  Container.ofList t items

/-- The value of a declared cardinality and base type that a JSON value holds; `null` is NULL
(`Value::from_json`). -/
def ofJson (j : Json) (c : Cardinality) (t : Option BaseType) : Except Fault Value :=
  if j.isNull then .ok .null
  else
    match c with
    | .single => do
      let t ← requireBaseType c t
      let s ← Scalar.ofJson t j
      pure (.single s)
    | .multiple => do
      let t ← requireBaseType c t
      let items ← containerOfJson t j
      pure (.multiple items)
    | .ordered => do
      let t ← requireBaseType c t
      let items ← containerOfJson t j
      pure (.ordered items)
    | .record =>
      match j with
      | .obj fields => do
        let fields ← fieldsOfJson .empty fields
        pure (.record fields)
      | j => .error (.cardinalityMismatch "record literal" "JSON object" j.compact)

end Value

end Assessment
