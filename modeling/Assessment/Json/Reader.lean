import Assessment.Json.Basic
import Assessment.Text.Numeral

/-!
# Reading JSON

`parse?` reads one value and nothing after it but blanks. It keeps the fields of an object as they
stand in the text, a key given twice included. Arrays and objects nest at most 127 deep. A number is
an `int` when it has no point and no exponent and fits 64 bits, signed or not, and minus zero is a
float; a number too large for a double is refused.

The texts of what is wrong, with line and column, are not read off: a text that is no JSON is just
none.
-/

namespace Assessment.Json

open Text

/-! ## Blanks and words -/

/-- The four blanks of JSON. -/
def isSpace (c : Char) : Bool := c == ' ' || c == '\n' || c == '\t' || c == '\r'

/-- The text after its leading blanks. -/
def skipSpace (s : List Char) : List Char := s.dropWhile isSpace

/-! ## Texts -/

/-- The value of a hexadecimal digit. -/
def hexValue? (c : Char) : Option Nat :=
  let n := c.toNat
  if 0x30 ≤ n && n ≤ 0x39 then some (n - 0x30)
  else if 0x61 ≤ n && n ≤ 0x66 then some (n - 0x57)
  else if 0x41 ≤ n && n ≤ 0x46 then some (n - 0x37)
  else none

/-- The number of four hexadecimal digits. -/
def hex4? (a b c d : Char) : Option Nat := do
  let a ← hexValue? a
  let b ← hexValue? b
  let c ← hexValue? c
  let d ← hexValue? d
  pure (((a * 16 + b) * 16 + c) * 16 + d)

/-- The character that a letter after a backslash stands for. -/
def shortEscape? : Char → Option Char
  | '"' => some '"'
  | '\\' => some '\\'
  | '/' => some '/'
  | 'b' => some (Char.ofNat 0x08)
  | 'f' => some (Char.ofNat 0x0C)
  | 'n' => some '\n'
  | 'r' => some '\r'
  | 't' => some '\t'
  | _ => none

/-- Whether a code unit is the first or the second half of a pair. -/
def isHighHalf (n : Nat) : Bool := 0xD800 ≤ n && n ≤ 0xDBFF

/-- Whether a code unit is the second half of a pair. -/
def isLowHalf (n : Nat) : Bool := 0xDC00 ≤ n && n ≤ 0xDFFF

/-- The characters up to the closing quote, and the text after it. -/
def readQuoted? : List Char → Option (List Char × List Char)
  | [] => none
  | '"' :: rest => some ([], rest)
  | '\\' :: 'u' :: a :: b :: c :: d :: '\\' :: 'u' :: e :: f :: g :: h :: rest => do
    let n ← hex4? a b c d
    if isHighHalf n then
      let m ← hex4? e f g h
      if isLowHalf m then
        let (cs, tail) ← readQuoted? rest
        pure (Char.ofNat (0x10000 + (n - 0xD800) * 0x400 + (m - 0xDC00)) :: cs, tail)
      else none
    else if isLowHalf n then none
    else
      let (cs, tail) ← readQuoted? ('\\' :: 'u' :: e :: f :: g :: h :: rest)
      pure (Char.ofNat n :: cs, tail)
  | '\\' :: 'u' :: a :: b :: c :: d :: rest => do
    let n ← hex4? a b c d
    if isHighHalf n || isLowHalf n then none
    else
      let (cs, tail) ← readQuoted? rest
      pure (Char.ofNat n :: cs, tail)
  | '\\' :: e :: rest => do
    let c ← shortEscape? e
    let (cs, tail) ← readQuoted? rest
    pure (c :: cs, tail)
  | c :: rest =>
    if c.toNat < 0x20 || c == '\\' then none
    else do
      let (cs, tail) ← readQuoted? rest
      pure (c :: cs, tail)

/-! ## Numbers -/

/-- The whole part: a zero, or digits that start with another. -/
def readWhole? (s : List Char) : Option (List Char × List Char) :=
  match s with
  | '0' :: rest => some (['0'], rest)
  | _ =>
    let ds := s.takeWhile isDigit
    if ds.isEmpty then none else some (ds, s.dropWhile isDigit)

/-- A point with digits after it, when there is a point. -/
def readFraction? (s : List Char) : Option (List Char × List Char) :=
  match s with
  | '.' :: rest =>
    let ds := rest.takeWhile isDigit
    if ds.isEmpty then none else some (ds, rest.dropWhile isDigit)
  | _ => some ([], s)

/-- The digits of an exponent after its sign. -/
def readPower? (negative : Bool) (s : List Char) : Option (Option Int × List Char) :=
  let ds := s.takeWhile isDigit
  if ds.isEmpty then none
  else
    let n : Int := digitsValue 0 ds
    some (some (if negative then -n else n), s.dropWhile isDigit)

/-- An exponent, when there is one. -/
def readPart? : List Char → Option (Option Int × List Char)
  | c :: rest =>
    if c == 'e' || c == 'E' then
      match rest with
      | '-' :: r => readPower? true r
      | '+' :: r => readPower? false r
      | r => readPower? false r
    else some (none, c :: rest)
  | [] => some (none, [])

/-- The value of a number that has only a whole part. -/
def wholeNumber (negative : Bool) (n : Nat) : Json :=
  if negative then
    if n = 0 then .float (-0.0)
    else if Int64.minValue.toInt ≤ -n then .int (-n) else .float (-(scaledFloat n 0))
  else if n < UInt64.size then .int n else .float (scaledFloat n 0)

/-- A number and the text after it. -/
def readNumber? (negative : Bool) (s : List Char) : Option (Json × List Char) := do
  let (whole, s) ← readWhole? s
  let (fraction, s) ← readFraction? s
  let (power, s) ← readPart? s
  let j :=
    if fraction.isEmpty && power.isNone then wholeNumber negative (digitsValue 0 whole)
    else
      let x := scaledFloat (digitsValue 0 (whole ++ fraction)) (power.getD 0 - fraction.length)
      .float (if negative then -x else x)
  match j with
  | .float x => if x.isFinite then some (j, s) else none
  | _ => some (j, s)

/-! ## Values -/

mutual

/-- A value and the text after it, for a text without leading blanks. -/
def readValue? : Nat → Nat → List Char → Option (Json × List Char)
  | 0, _, _ => none
  | fuel + 1, depth, s =>
    match s with
    | 'n' :: 'u' :: 'l' :: 'l' :: rest => some (.null, rest)
    | 't' :: 'r' :: 'u' :: 'e' :: rest => some (.bool true, rest)
    | 'f' :: 'a' :: 'l' :: 's' :: 'e' :: rest => some (.bool false, rest)
    | '"' :: rest => (readQuoted? rest).map fun (cs, tail) => (.str (String.ofList cs), tail)
    | '-' :: rest => readNumber? true rest
    | '[' :: rest =>
      if depth ≤ 1 then none
      else match skipSpace rest with
        | ']' :: tail => some (.arr [], tail)
        | r => (readItems? fuel (depth - 1) r).map fun (items, tail) => (.arr items, tail)
    | '\x7b' :: rest =>
      if depth ≤ 1 then none
      else match skipSpace rest with
        | '\x7d' :: tail => some (.obj [], tail)
        | r => (readFields? fuel (depth - 1) r).map fun (fields, tail) => (.obj fields, tail)
    | _ => readNumber? false s

/-- The items up to the closing bracket; the text starts at one. -/
def readItems? : Nat → Nat → List Char → Option (List Json × List Char)
  | 0, _, _ => none
  | fuel + 1, depth, s => do
    let (j, s) ← readValue? fuel depth s
    match skipSpace s with
    | ',' :: rest =>
      let (items, tail) ← readItems? fuel depth (skipSpace rest)
      pure (j :: items, tail)
    | ']' :: tail => pure ([j], tail)
    | _ => none

/-- The fields up to the closing brace; the text starts at one. -/
def readFields? : Nat → Nat → List Char → Option (List (String × Json) × List Char)
  | 0, _, _ => none
  | fuel + 1, depth, s =>
    match s with
    | '"' :: s => do
      let (key, s) ← readQuoted? s
      match skipSpace s with
      | ':' :: s =>
        let (j, s) ← readValue? fuel depth (skipSpace s)
        match skipSpace s with
        | ',' :: rest =>
          let (fields, tail) ← readFields? fuel depth (skipSpace rest)
          pure ((String.ofList key, j) :: fields, tail)
        | '\x7d' :: tail => pure ([(String.ofList key, j)], tail)
        | _ => none
      | _ => none
    | _ => none

end

/-- One more than the number of levels that arrays and objects may nest. -/
def depthLimit : Nat := 128

/-- The value that a text holds. -/
def parse? (text : String) : Option Json :=
  let s := text.toList
  match readValue? (2 * s.length + 2) depthLimit (skipSpace s) with
  | some (j, rest) => if (skipSpace rest).isEmpty then some j else none
  | none => none

end Assessment.Json
