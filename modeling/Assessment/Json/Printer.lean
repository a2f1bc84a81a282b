import Assessment.Json.Basic
import Assessment.Decimal.Shortest

/-!
# Writing JSON

`compact` writes a value without blanks, `pretty` on lines with two spaces for each level. A float
always shows a point or an exponent; it is positional from `1e-5` up to `1e16`. Texts are escaped
where JSON asks for it and nowhere else. `compact` is also how messages quote a value that does not
fit (`invalid integer literal: '1e+300'`).
-/

namespace Assessment.Json

open Decimal

/-- Floats are positional with up to four zeros after the point and up to sixteen digits before
it, and whole ones end in `.0`. -/
def floatStyle : Style := ⟨some (-5, 16), true⟩

/-- The text of a float; what is not finite has none and is `null`. -/
def floatText (x : Float) : String :=
  match Binary.ofFloat? x with
  | some b => String.ofList (floatStyle.binaryChars b)
  | none => "null"

/-- The digit of a number below sixteen. -/
def hexDigit (n : Nat) : Char :=
  if n < 10 then Char.ofNat (0x30 + n) else Char.ofNat (0x57 + n)

/-- A character as it stands inside a quoted text. -/
def escapeChar (c : Char) : List Char :=
  match c.toNat with
  | 0x22 => ['\\', '"']
  | 0x5C => ['\\', '\\']
  | 0x08 => ['\\', 'b']
  | 0x0C => ['\\', 'f']
  | 0x0A => ['\\', 'n']
  | 0x0D => ['\\', 'r']
  | 0x09 => ['\\', 't']
  | n => if n < 0x20 then ['\\', 'u', '0', '0', hexDigit (n / 16), hexDigit (n % 16)] else [c]

/-- A text in quotes. -/
def quoted (s : String) : String :=
  "\"" ++ String.ofList (s.toList.flatMap escapeChar) ++ "\""

/-- The text of a value that holds no others. -/
def leafText : Json → String
  | .null => "null"
  | .bool b => if b then "true" else "false"
  | .int n => String.ofList (Text.integerChars n)
  | .float x => floatText x
  | .str s => quoted s
  | .arr _ => "[]"
  | .obj _ => "\x7b\x7d"

mutual

/-- The text without blanks. -/
def compact : Json → String
  | .arr items => "[" ++ ",".intercalate (compactItems items) ++ "]"
  | .obj fields => "\x7b" ++ ",".intercalate (compactFields fields) ++ "\x7d"
  | j => leafText j

/-- The texts of the items. -/
def compactItems : List Json → List String
  | [] => []
  | j :: rest => compact j :: compactItems rest

/-- The texts of the fields, each with its key. -/
def compactFields : List (String × Json) → List String
  | [] => []
  | (k, j) :: rest => (quoted k ++ ":" ++ compact j) :: compactFields rest

end

/-- The blanks that start a line at a level. -/
def indent (level : Nat) : String := String.ofList (List.replicate (2 * level) ' ')

/-- Parts on lines of their own between two brackets; the brackets alone when there are none. -/
def block (level : Nat) (opening closing : String) (parts : List String) : String :=
  if parts.isEmpty then opening ++ closing
  else opening ++ "\n"
    ++ ",\n".intercalate (parts.map fun p => indent (level + 1) ++ p)
    ++ "\n" ++ indent level ++ closing

mutual

/-- The text on lines, for a value at a level. -/
def prettyAt (level : Nat) : Json → String
  | .arr items => block level "[" "]" (prettyItems level items)
  | .obj fields => block level "\x7b" "\x7d" (prettyFields level fields)
  | j => leafText j

/-- The texts of the items of an array at a level. -/
def prettyItems (level : Nat) : List Json → List String
  | [] => []
  | j :: rest => prettyAt (level + 1) j :: prettyItems level rest

/-- The texts of the fields of an object at a level. -/
def prettyFields (level : Nat) : List (String × Json) → List String
  | [] => []
  | (k, j) :: rest => (quoted k ++ ": " ++ prettyAt (level + 1) j) :: prettyFields level rest

end

/-- The text on lines, two spaces for each level. -/
def pretty (j : Json) : String := prettyAt 0 j

end Assessment.Json
