import Assessment.Decimal.Shortest
import Assessment.Fault
import Assessment.Json.Printer
import Assessment.Text.Blank

/-!
# Scalars: single values

A scalar is a value of one base type: `Scalar`. `Scalar.same` compares two, as its `PartialEq` does:
the parts of a `pair` may stand in either order, all else is compared as it is, and values of
different base types differ. A NaN differs from itself; legal values have none.

A scalar has a text (`text`, its `Display` form), which `read` takes back where the base type has a
textual form (`Scalar::parse`), and a JSON form (`toJson`), which `ofJson` takes back
(`Scalar::to_json`, `Scalar::from_json`). Floats and durations are finite wherever they are read;
the arithmetic of the operators gives NULL before it would build another.

Headlines:
* `baseType_read`, `baseType_ofJson`: what is read has the base type asked for.
* `baseType_eq_of_same`: scalars that are the same have one base type.
-/

namespace Assessment

open Text Numeric

/-- A single value. -/
inductive Scalar where
  | identifier (name : String)
  | boolean (b : Bool)
  | integer (n : Int64)
  | float (x : Float)
  | string (s : String)
  | duration (seconds : Float)
  | point (x y : Int64)
  | pair (a b : String)
  | directedPair (source target : String)
  | file (name : String)
  | uri (address : String)
deriving DecidableEq

namespace Scalar

/-- The base type of a scalar. -/
def baseType : Scalar → BaseType
  | identifier _ => .identifier
  | boolean _ => .boolean
  | integer _ => .integer
  | float _ => .float
  | string _ => .string
  | duration _ => .duration
  | point _ _ => .point
  | pair _ _ => .pair
  | directedPair _ _ => .directedPair
  | file _ => .file
  | uri _ => .uri

/-- Whether two scalars are the same value. -/
def same : Scalar → Scalar → Bool
  | identifier a, identifier b => a == b
  | boolean a, boolean b => a == b
  | integer a, integer b => a == b
  | float a, float b => a == b
  | string a, string b => a == b
  | duration a, duration b => a == b
  | point a b, point c d => a == c && b == d
  | pair a b, pair c d => (a == c && b == d) || (a == d && b == c)
  | directedPair a b, directedPair c d => a == c && b == d
  | file a, file b => a == b
  | uri a, uri b => a == b
  | _, _ => false

/-- The number that an integer or a float holds (`Scalar::as_f64`). -/
def toFloat? : Scalar → Option Float
  | integer n => some (Numeric.toFloat n)
  | float x => some x
  | _ => none

/-! ## Text -/

/-- The text of a scalar. -/
def text : Scalar → String
  | identifier s | string s | file s | uri s => s
  | boolean b => if b then "true" else "false"
  | integer n => integerText n.toInt
  | float x | duration x => Decimal.plainText x
  | point x y => integerText x.toInt ++ " " ++ integerText y.toInt
  | pair a b | directedPair a b => a ++ " " ++ b

/-- The scalar of a base type that a text writes, when it writes one. -/
def read? (baseType : BaseType) (literal : String) : Option Scalar :=
  let trimmed := trim literal
  match baseType with
  | .identifier =>
    if trimmed.isEmpty || trimmed.toList.any isBlank then none else some (identifier trimmed)
  | .boolean =>
    if trimmed == "true" || trimmed == "1" then some (boolean true)
    else if trimmed == "false" || trimmed == "0" then some (boolean false)
    else none
  | .integer => (readInt64? trimmed).map integer
  | .float => (readFinite? trimmed).map float
  | .duration => (readFinite? trimmed).map duration
  | .string => some (string literal)
  | .point => do
    let (a, b) ← twoWords? trimmed
    let x ← readInt64? a
    let y ← readInt64? b
    pure (point x y)
  | .pair => (twoWords? trimmed).map fun (a, b) => pair a b
  | .directedPair => (twoWords? trimmed).map fun (a, b) => directedPair a b
  | .file => some (file literal)
  | .uri => if trimmed.isEmpty then none else some (uri trimmed)

/-- The scalar of a base type that a text writes (`Scalar::parse`). -/
def read (baseType : BaseType) (literal : String) : Except Fault Scalar :=
  match read? baseType literal with
  | some s => .ok s
  | none => .error (.invalidLiteral baseType literal)

/-! ## JSON -/

/-- A part of a two-element array as text. -/
def partText? : Json → Option String
  | .str s => some s
  | .int n => some (integerText n)
  | .float x => some (Json.floatText x)
  | _ => none

/-- The texts of the parts with a space between each two. -/
def joinedParts? (parts : List Json) : Option String :=
  (parts.mapM partText?).map fun texts => " ".intercalate texts

/-- The scalar of a base type that a JSON value holds: texts in the textual form, numbers and
booleans as they are, points and pairs also as arrays of two (`Scalar::from_json`). -/
def ofJson (baseType : BaseType) (j : Json) : Except Fault Scalar :=
  let refused : Except Fault Scalar := .error (.invalidLiteral baseType j.compact)
  match j with
  | .str s => read baseType s
  | .bool b => if baseType = .boolean then .ok (boolean b) else refused
  | .int n =>
    match baseType with
    | .integer => match fit? n with
      | some i => .ok (integer i)
      | none => refused
    | .float => .ok (float (Float.ofInt n))
    | .duration => .ok (duration (Float.ofInt n))
    | _ => refused
  | .float x =>
    match baseType with
    | .float => .ok (float x)
    | .duration => .ok (duration x)
    | _ => refused
  | .arr [a, b] =>
    match joinedParts? [a, b] with
    | none => refused
    | some joined =>
      match baseType with
      | .point | .pair | .directedPair => read baseType joined
      | _ => refused
  | _ => refused

/-- The JSON form of a scalar (`Scalar::to_json`). -/
def toJson : Scalar → Json
  | boolean b => .bool b
  | integer n => .int n.toInt
  | float x | duration x => .float x
  | s => .str s.text

/-! ## What is read has its base type -/

theorem baseType_read? {t : BaseType} {literal : String} {s : Scalar}
    (h : read? t literal = some s) : s.baseType = t := by
  cases t <;> simp only [read?] at h
  case identifier => split at h <;> simp at h; subst h; rfl
  case boolean =>
    split at h
    · cases h; rfl
    · split at h <;> cases h
      rfl
  case integer => obtain ⟨_, _, rfl⟩ := Option.map_eq_some_iff.1 h; rfl
  case float => obtain ⟨_, _, rfl⟩ := Option.map_eq_some_iff.1 h; rfl
  case string => simp at h; subst h; rfl
  case duration => obtain ⟨_, _, rfl⟩ := Option.map_eq_some_iff.1 h; rfl
  case point =>
    simp only [Option.bind_eq_bind, Option.bind_eq_some_iff, Option.pure_def,
      Option.some.injEq] at h
    obtain ⟨_, _, _, _, _, _, rfl⟩ := h
    rfl
  case pair => obtain ⟨_, _, rfl⟩ := Option.map_eq_some_iff.1 h; rfl
  case directedPair => obtain ⟨_, _, rfl⟩ := Option.map_eq_some_iff.1 h; rfl
  case file => simp at h; subst h; rfl
  case uri => split at h <;> simp at h; subst h; rfl

theorem baseType_read {t : BaseType} {literal : String} {s : Scalar}
    (h : read t literal = .ok s) : s.baseType = t := by
  unfold read at h
  split at h
  · rename_i e
    cases h
    exact baseType_read? e
  · cases h

theorem baseType_ofJson {t : BaseType} {j : Json} {s : Scalar}
    (h : ofJson t j = .ok s) : s.baseType = t := by
  unfold ofJson at h
  dsimp only at h
  split at h
  · exact baseType_read h
  · split at h <;> cases h
    rename_i e
    exact e.symm
  · split at h
    · split at h <;> cases h
      rfl
    · cases h; rfl
    · cases h; rfl
    · cases h
  · split at h <;> cases h <;> rfl
  · split at h
    · cases h
    · split at h
      · exact baseType_read h
      · exact baseType_read h
      · exact baseType_read h
      · cases h
  · cases h

/-! ## The comparison -/

theorem baseType_eq_of_same {a b : Scalar} (h : a.same b = true) : a.baseType = b.baseType := by
  cases a <;> cases b <;> first | rfl | cases h

end Scalar

end Assessment
