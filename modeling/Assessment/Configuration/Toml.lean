import Assessment.Configuration.Basic
import Assessment.Json.Reader

/-!
# Reading configuration files

A configuration file is a TOML document. Its settings are integers in tables, so of TOML's values
integers, arrays and inline tables are read, and a document with any other has no reading: it would
be refused as a configuration too. A table is opened by one header, or by dotted keys, or stands
inline, and nothing is added to it in another of these ways.

`readToml?` gives the JSON value of the document, which `Configuration.ofJson` reads; so the command
line's `load_config` has one set of rules for what a configuration may hold.
-/

namespace Assessment.Configuration

open Text

/-! ## Characters -/

/-- Blanks within a line. -/
def isLineBlank (c : Char) : Bool := c == ' ' || c == '\t'

/-- A text after its leading blanks. -/
def skipBlanks (s : List Char) : List Char := s.dropWhile isLineBlank

/-- The characters of keys without quotes. -/
def isKeyChar (c : Char) : Bool := c.isAlphanum || c == '_' || c == '-'

/-- The characters of comments and quoted keys. -/
def isPlain (c : Char) : Bool := c == '\t' || (0x20 ≤ c.toNat && c.toNat != 0x7F)

/-- The rest of a line after its comment, when that has no control characters. -/
def skipComment (s : List Char) : Option (List Char) :=
  match s with
  | '#' :: rest => some (rest.dropWhile isPlain)
  | s => some s

/-- The text after the end of a line. -/
def endLine? (s : List Char) : Option (List Char) := do
  let s ← skipComment (skipBlanks s)
  match s with
  | [] => some []
  | '\n' :: rest => some rest
  | '\r' :: '\n' :: rest => some rest
  | _ => none

/-- A text after blanks, comments and ends of lines. -/
def skipLines : Nat → List Char → List Char
  | 0, s => s
  | fuel + 1, s =>
    match skipBlanks s with
    | [] => []
    | c :: rest =>
      match endLine? (c :: rest) with
      | some tail => skipLines fuel tail
      | none => c :: rest

/-! ## Keys -/

/-- The character whose number is written in hexadecimal digits. -/
def characterOf? (digits : List Char) : Option Char := do
  let ds ← digits.mapM Json.hexValue?
  let n := ds.foldl (fun acc d => 16 * acc + d) 0
  if n.isValidChar then some (Char.ofNat n) else none

/-- The character that a letter stands for after a backslash. -/
def escaped? : Char → Option Char
  | 'b' => some '\x08'
  | 't' => some '\t'
  | 'n' => some '\n'
  | 'f' => some '\x0c'
  | 'r' => some '\r'
  | '"' => some '"'
  | '\\' => some '\\'
  | _ => none

/-- A key up to its closing double quote, and the text after it. -/
def quotedKey? : List Char → Option (List Char × List Char)
  | [] => none
  | '"' :: rest => some ([], rest)
  | '\\' :: 'u' :: a :: b :: c :: d :: rest => do
    let ch ← characterOf? [a, b, c, d]
    let (more, tail) ← quotedKey? rest
    pure (ch :: more, tail)
  | '\\' :: 'U' :: a :: b :: c :: d :: e :: f :: g :: h :: rest => do
    let ch ← characterOf? [a, b, c, d, e, f, g, h]
    let (more, tail) ← quotedKey? rest
    pure (ch :: more, tail)
  | '\\' :: c :: rest => do
    let ch ← escaped? c
    let (more, tail) ← quotedKey? rest
    pure (ch :: more, tail)
  | c :: rest => do
    if isPlain c then
      let (more, tail) ← quotedKey? rest
      pure (c :: more, tail)
    else none

/-- A key up to its closing single quote, and the text after it. -/
def literalKey? : List Char → Option (List Char × List Char)
  | [] => none
  | '\'' :: rest => some ([], rest)
  | c :: rest => do
    if isPlain c then
      let (more, tail) ← literalKey? rest
      pure (c :: more, tail)
    else none

/-- A part of a key and the text after it. -/
def keyPart? (s : List Char) : Option (String × List Char) :=
  match s with
  | '"' :: rest => (quotedKey? rest).map fun (key, tail) => (String.ofList key, tail)
  | '\'' :: rest => (literalKey? rest).map fun (key, tail) => (String.ofList key, tail)
  | s =>
    let part := s.takeWhile isKeyChar
    if part.isEmpty then none else some (String.ofList part, s.dropWhile isKeyChar)

/-- The parts of a dotted key and the text after it. -/
def dottedKey? : Nat → List Char → Option (List String × List Char)
  | 0, _ => none
  | fuel + 1, s => do
    let (part, rest) ← keyPart? (skipBlanks s)
    match skipBlanks rest with
    | '.' :: rest =>
      let (more, rest) ← dottedKey? fuel rest
      pure (part :: more, rest)
    | rest => pure ([part], rest)

/-! ## Integers -/

/-- The value of a digit of a base. -/
def digitOf? (base : Nat) (c : Char) : Option Nat :=
  (Json.hexValue? c).filter fun d => d < base

/-- The value of digits of a base after those of value `acc`; underscores stand between digits. -/
def digitsIn? (base acc : Nat) : List Char → Option Nat
  | [] => some acc
  | '_' :: c :: rest => do
    let d ← digitOf? base c
    digitsIn? base (acc * base + d) rest
  | c :: rest => do
    let d ← digitOf? base c
    digitsIn? base (acc * base + d) rest

/-- The value of digits that start with one. -/
def wholeIn? (base : Nat) (s : List Char) : Option Nat :=
  match s with
  | c :: _ => if (digitOf? base c).isSome then digitsIn? base 0 s else none
  | [] => none

/-- The value of a decimal number without needless zeros. -/
def decimal? (s : List Char) : Option Nat :=
  match s with
  | '0' :: _ :: _ => none
  | s => wholeIn? 10 s

/-- The value of an integer. -/
def integer? (s : List Char) : Option Int :=
  match s with
  | '0' :: 'x' :: rest => (wholeIn? 16 rest).map Int.ofNat
  | '0' :: 'o' :: rest => (wholeIn? 8 rest).map Int.ofNat
  | '0' :: 'b' :: rest => (wholeIn? 2 rest).map Int.ofNat
  | '+' :: rest => (decimal? rest).map Int.ofNat
  | '-' :: rest => (decimal? rest).map fun n => -(n : Int)
  | s => (decimal? s).map Int.ofNat

/-! ## Tables -/

/-- A value of a document. -/
inductive Setting where
  | integer (n : Int64)
  | array (items : List Setting)
  /-- A table; a complete one takes no further fields. -/
  | table (complete : Bool) (fields : List (String × Setting))

namespace Setting

mutual

/-- The JSON form of a value. -/
def toJson : Setting → Json
  | integer n => .int n.toInt
  | array items => .arr (itemsToJson items)
  | table _ fields => .obj (fieldsToJson fields)

/-- The JSON forms of values. -/
def itemsToJson : List Setting → List Json
  | [] => []
  | v :: rest => toJson v :: itemsToJson rest

/-- The JSON forms of fields. -/
def fieldsToJson : List (String × Setting) → List (String × Json)
  | [] => []
  | (key, v) :: rest => (key, toJson v) :: fieldsToJson rest

end

end Setting

/-- Puts a value under a path into fields; nothing may stand there, and a table on the way must not
be complete. -/
def place (path : List String) (value : Setting) (fields : List (String × Setting)) :
    Option (List (String × Setting)) :=
  match path with
  | [] => none
  | [key] => if (Table.find? key fields).isSome then none else some (fields ++ [(key, value)])
  | key :: more =>
    match Table.find? key fields with
    | none => (place more value []).map fun inner => fields ++ [(key, .table false inner)]
    | some (.table false inner) =>
      (place more value inner).map fun inner =>
        fields.map fun f => if f.1 = key then (key, .table false inner) else f
    | some _ => none

/-! ## Values -/

/-- The characters of numbers. -/
def isNumberChar (c : Char) : Bool := c.isAlphanum || c == '_' || c == '+' || c == '-'

mutual

/-- A value and the text after it. -/
def value? : Nat → List Char → Option (Setting × List Char)
  | 0, _ => none
  | fuel + 1, s =>
    match s with
    | '[' :: rest =>
      (elements? fuel (skipLines rest.length rest)).map fun (vs, tail) => (.array vs, tail)
    | '\x7b' :: rest =>
      match skipBlanks rest with
      | '\x7d' :: tail => some (.table true [], tail)
      | rest => (inlineFields? fuel [] rest).map fun (fields, tail) => (.table true fields, tail)
    | s => do
      let n ← integer? (s.takeWhile isNumberChar)
      let i ← Numeric.fit? n
      pure (.integer i, s.dropWhile isNumberChar)

/-- The elements of an array up to its end; a comma may stand after the last. -/
def elements? : Nat → List Char → Option (List Setting × List Char)
  | 0, _ => none
  | _ + 1, ']' :: tail => some ([], tail)
  | fuel + 1, s => do
    let (v, rest) ← value? fuel s
    match skipLines rest.length rest with
    | ',' :: rest =>
      let (vs, tail) ← elements? fuel (skipLines rest.length rest)
      pure (v :: vs, tail)
    | ']' :: tail => pure ([v], tail)
    | _ => none

/-- The fields of an inline table up to its end, put into those read already. -/
def inlineFields? : Nat → List (String × Setting) → List Char →
    Option (List (String × Setting) × List Char)
  | 0, _, _ => none
  | fuel + 1, done, s => do
    let (path, rest) ← dottedKey? s.length s
    match rest with
    | '=' :: rest =>
      let (v, rest) ← value? fuel (skipBlanks rest)
      let done ← place path v done
      match skipBlanks rest with
      | ',' :: rest => inlineFields? fuel done rest
      | '\x7d' :: tail => pure (done, tail)
      | _ => none
    | _ => none

end

/-! ## Documents -/

/-- A header with the name of its table, and the text after it. -/
def header? (s : List Char) : Option (String × List Char) := do
  let (path, rest) ← dottedKey? s.length s
  match path, rest with
  | [name], ']' :: rest =>
    let tail ← endLine? rest
    pure (name, tail)
  | _, _ => none

/-- A key with its value, and the text after it. -/
def setting? (s : List Char) : Option (List String × Setting × List Char) := do
  let (path, rest) ← dottedKey? s.length s
  match rest with
  | '=' :: rest =>
    let rest := skipBlanks rest
    let (v, rest) ← value? (2 * rest.length + 2) rest
    let tail ← endLine? rest
    pure (path, v, tail)
  | _ => none

/-- The settings of a table up to the next header, put into those read already. -/
def settings? : Nat → List (String × Setting) → List Char →
    Option (List (String × Setting) × List Char)
  | 0, _, _ => none
  | fuel + 1, done, s =>
    match skipLines s.length s with
    | [] => some (done, [])
    | '[' :: rest => some (done, '[' :: rest)
    | s => do
      let (path, v, tail) ← setting? s
      let done ← place path v done
      settings? fuel done tail

/-- The tables of a document, put into the settings before them. -/
def tables? : Nat → List (String × Setting) → List Char → Option (List (String × Setting))
  | 0, _, _ => none
  | fuel + 1, done, s =>
    match s with
    | '[' :: rest => do
      let (name, rest) ← header? rest
      let (fields, tail) ← settings? (rest.length + 1) [] rest
      let done ← place [name] (.table true fields) done
      tables? fuel done tail
    | _ => some done

/-- The tables and settings of a document. -/
def readToml? (text : String) : Option Json := do
  let s := match text.toList with
    | '\ufeff' :: rest => rest
    | s => s
  let (fields, rest) ← settings? (s.length + 1) [] s
  let fields ← tables? (s.length + 1) fields rest
  pure (Setting.table true fields).toJson

/-- The configuration of a file. -/
def ofToml? (text : String) : Option Configuration :=
  match (readToml? text).map ofJson with
  | some (.ok c) => some c
  | _ => none

end Assessment.Configuration
