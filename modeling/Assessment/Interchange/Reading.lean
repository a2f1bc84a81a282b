import Assessment.Attribute
import Assessment.Shape
import Assessment.Value.Basic

/-!
# Reading documents

A `Decoder` reads a JSON value, a `Reading` the fields of an object. Readings are put together by
`<*>`, and when several fields are refused, the refusal of the field that stands first counts; a
missing field comes after all that are there. What is checked of the values together
(`Reading.andThen`) comes last.

That is how the documents of section B.6 of the specification are deserialized: first the fields of
the raw form of a document one after the other, then the conversion from it, whose refusal is a
fault with a text. A refusal of the first sort has no text here (`Refusal.malformed`).

* `record` leaves fields it does not know unread, `closed` refuses them.
* `tagged` reads an object by its tag (`kind` or `type`). What stands inside such an object is read
  from a copy, where a choice may also stand as an object with an empty object under its name
  (`innerChoice`).
-/

namespace Assessment.Interchange

/-- Why a document is refused. -/
inductive Refusal where
  /-- It does not have the form of its kind of document. -/
  | malformed
  /-- A part of it is a fault. -/
  | fault (f : Fault)
  /-- A numeric attribute is refused. -/
  | attribute (r : AttributeRefusal)
  /-- A part of a coordinate list is no finite number. -/
  | coordinate (part : String)
deriving DecidableEq, Repr

/-- The wording of a refusal; a document without the form of its kind has none. -/
def Refusal.message? : Refusal → Option String
  | .malformed => none
  | .fault f => some f.message
  | .attribute r => some r.message
  | .coordinate part => some (badCoordinateText part)

/-- A rule that reads a JSON value. -/
abbrev Decoder (α : Type) := Json → Except Refusal α

variable {α β : Type}

/-- A result whose fault is a refusal. -/
def orFault : Except Fault α → Except Refusal α
  | .ok a => .ok a
  | .error f => .error (.fault f)

/-! ## Values -/

/-- A value that is there, malformed without it. -/
def present : Option α → Except Refusal α
  | some a => .ok a
  | none => .error .malformed

/-- Any JSON value, as it is. -/
def raw : Decoder Json := fun j => .ok j.normalize

/-- A text. -/
def text : Decoder String
  | .str s => .ok s
  | _ => .error .malformed

/-- A truth value. -/
def bool : Decoder Bool
  | .bool b => .ok b
  | _ => .error .malformed

/-- A number, whole ones included. -/
def number : Decoder Float
  | .int n => .ok (Float.ofInt n)
  | .float x => .ok x
  | _ => .error .malformed

/-- A whole number of 64 bits with sign. -/
def integer : Decoder Int64
  | .int n => present (Numeric.fit? n)
  | _ => .error .malformed

/-- A whole number from zero up to below a bound. -/
def natural (bound : Nat) : Decoder Nat
  | .int n => if 0 ≤ n ∧ n < bound then .ok n.toNat else .error .malformed
  | _ => .error .malformed

/-- One of several choices by its name. -/
def choice (ofName? : String → Option α) : Decoder α := fun j =>
  present ((Value.choiceName? j).bind ofName?)

/-- One of several choices within a tagged object, where its name may stand with an empty object. -/
def innerChoice (ofName? : String → Option α) : Decoder α
  | .obj [(k, .obj [])] => present (ofName? k)
  | j => choice ofName? j

/-- One of several names within a tagged object, where its place in their list may stand for it. -/
def innerName (names : List String) : Decoder String
  | .int n => if n < 0 then .error .malformed else present names[n.toNat]?
  | j => text j

/-- An integer attribute. -/
def integerAttribute : Decoder IntegerAttribute := fun j =>
  match IntegerAttribute.ofJson j with
  | .ok a => .ok a
  | .error r => .error (.attribute r)

/-- A float attribute. -/
def floatAttribute : Decoder FloatAttribute := fun j =>
  match FloatAttribute.ofJson j with
  | .ok a => .ok a
  | .error r => .error (.attribute r)

/-- A list of coordinates in a text. -/
def coordinates : Decoder (List Float)
  | .str s =>
    match parseCoordinates s with
    | .ok xs => .ok xs
    | .error part => .error (.coordinate part)
  | _ => .error .malformed

/-- A value that may be `null`. -/
def nullable (d : Decoder α) : Decoder (Option α)
  | .null => .ok none
  | j => (d j).map some

/-- The items of an array one after the other. -/
def items (d : Decoder α) : List Json → Except Refusal (List α)
  | [] => .ok []
  | j :: rest => do
    let a ← d j
    let more ← items d rest
    pure (a :: more)

/-- An array. -/
def listOf (d : Decoder α) : Decoder (List α)
  | .arr js => items d js
  | _ => .error .malformed

/-- An array of two; both are read before their number is looked at. -/
def pairOf (d : Decoder α) : Decoder (α × α)
  | .arr (a :: b :: rest) => do
    let a ← d a
    let b ← d b
    if rest.isEmpty then pure (a, b) else .error .malformed
  | .arr [a] => do
    let _ ← d a
    .error .malformed
  | _ => .error .malformed

/-- Fields put one after the other into those read already. -/
def entries (d : Decoder α) (done : Table α) : List (String × Json) → Except Refusal (Table α)
  | [] => .ok done
  | (k, j) :: rest => do
    let a ← d j
    entries d (done.insert k a) rest

/-- An object whose fields are all alike. -/
def tableOf (d : Decoder α) : Decoder (Table α)
  | .obj fields => entries d .empty fields
  | _ => .error .malformed

/-! ## Fields -/

/-- A refusal with the place of the field that it is for. -/
structure Misread where
  place : Nat
  refusal : Refusal

/-- A rule that reads the fields of an object. -/
def Reading (α : Type) := List (String × Json) → Except Misread α

/-- The results of two rules together; of two refusals that of the earlier field. -/
def combine : Except Misread (α → β) → Except Misread α → Except Misread β
  | .ok f, .ok a => .ok (f a)
  | .ok _, .error e => .error e
  | .error e, .ok _ => .error e
  | .error e, .error f => .error (if f.place < e.place then f else e)

instance : Applicative Reading where
  pure a := fun _ => .ok a
  seq f x := fun fields => combine (f fields) (x () fields)

/-- The value of the first field of a name, its place counted from `i`, and the fields after it. -/
def locate (name : String) (i : Nat) :
    List (String × Json) → Option (Nat × Json × List (String × Json))
  | [] => none
  | (k, j) :: rest => if k = name then some (i, j, rest) else locate name (i + 1) rest

namespace Reading

/-- The field of a name, which may be missing but not be there twice. -/
def optional? (name : String) (d : Decoder α) : Reading (Option α) := fun fields =>
  match locate name 0 fields with
  | none => .ok none
  | some (place, j, rest) =>
    match d j with
    | .error refusal => .error ⟨place, refusal⟩
    | .ok a =>
      match locate name (place + 1) rest with
      | some (again, _, _) => .error ⟨again, .malformed⟩
      | none => .ok (some a)

/-- A field that has to be there. -/
def required (name : String) (d : Decoder α) : Reading α := fun fields =>
  match optional? name d fields with
  | .ok (some a) => .ok a
  | .ok none => .error ⟨fields.length, .malformed⟩
  | .error e => .error e

/-- A field with a default for when it is missing. -/
def optional (name : String) (default : α) (d : Decoder α) : Reading α :=
  (fun a => a.getD default) <$> optional? name d

/-- A field that may be missing or `null`. -/
def option (name : String) (d : Decoder α) : Reading (Option α) :=
  optional name none (nullable d)

/-- A list that may be missing. -/
def list (name : String) (d : Decoder α) : Reading (List α) := optional name [] (listOf d)

/-- A value read from the fields, refused or changed by a last check of it. -/
def andThen (r : Reading α) (f : α → Except Refusal β) : Reading β := fun fields =>
  match r fields with
  | .error e => .error e
  | .ok a =>
    match f a with
    | .ok b => .ok b
    | .error refusal => .error ⟨fields.length, refusal⟩

/-- Refuses fields of other names. -/
def closed (names : List String) (r : Reading α) : Reading α :=
  let onlyNamed : Reading Unit := fun fields =>
    match fields.findIdx? fun f => !names.contains f.1 with
    | some place => .error ⟨place, .malformed⟩
    | none => .ok ()
  (fun a _ => a) <$> r <*> onlyNamed

/-- The value of an object's fields. -/
def run (r : Reading α) (fields : List (String × Json)) : Except Refusal α :=
  match r fields with
  | .ok a => .ok a
  | .error e => .error e.refusal

end Reading

/-- An object, or an array of the values of its fields in the order of their names. -/
def record (names : List String) (r : Reading α) : Decoder α
  | .obj fields => r.run fields
  | .arr js => if js.length ≤ names.length then r.run (names.zip js) else .error .malformed
  | _ => .error .malformed

/-- An object whose field `tag`, read by a rule for names, tells which rule reads the others. -/
def tagged (tag : String) (name : Decoder String) (rule : String → Option (Reading α)) : Decoder α
  | .obj fields => do
    let kind ← ((Reading.required tag name).run fields)
    let r ← present (rule kind)
    r.run fields
  | _ => .error .malformed

end Assessment.Interchange
