import Assessment.Pattern.CharSet

/-!
# Quoted texts

The form in which a text is shown to a maintainer: between double quotes, with escapes for what
would not be seen or not be read back. It is what the `Debug` form of `OperatorRegistry` shows of
its keys, and what the reader of JSON says of a text where it expects something else.

* A tab, the two line ends, a double quote, a backslash and NUL have escapes of their own.
* Any other character that is not printable, or that extends the one before it (`Grapheme_Extend`),
  is written by its code point in hexadecimal digits.
* Printable are the letters, marks, numbers, punctuation and symbols of Unicode, and the space; the
  other blanks, the controls, the formats and the unassigned code points are not.
-/

namespace Assessment.Text

open Pattern

/-- The spacing marks that extend the character before them. -/
def extendingMarks : List (Nat × Nat) :=
  [(0x9BE, 0x9BE), (0x9D7, 0x9D7), (0xB3E, 0xB3E), (0xB57, 0xB57), (0xBBE, 0xBBE), (0xBD7, 0xBD7),
    (0xCC2, 0xCC2), (0xCD5, 0xCD6), (0xD3E, 0xD3E), (0xD57, 0xD57), (0xDCF, 0xDCF), (0xDDF, 0xDDF),
    (0x1B35, 0x1B35), (0x302E, 0x302F), (0xFF9E, 0xFF9F), (0x1133E, 0x1133E), (0x11357, 0x11357),
    (0x114B0, 0x114B0), (0x114BD, 0x114BD), (0x115AF, 0x115AF), (0x11930, 0x11930),
    (0x1D165, 0x1D165), (0x1D16E, 0x1D172)]

/-- Whether a code point extends the character before it: `Grapheme_Extend`. -/
def isExtending (n : Nat) : Bool :=
  (CharSet.unionOf [.ranges Category.nonspacingMark, .ranges Category.enclosingMark,
    .ranges extendingMarks]).holds n

/-- Whether a code point leaves something to be seen, or is the space. -/
def isPrintable (n : Nat) : Bool :=
  n == 0x20 || (CharSet.unionOf [CharSet.letter, CharSet.mark, CharSet.number,
    CharSet.punctuation, CharSet.symbol]).holds n

/-- A character as it stands in a quoted text. -/
def quotedChar (c : Char) : List Char :=
  match c with
  | '\x00' => ['\\', '0']
  | '\t' => ['\\', 't']
  | '\r' => ['\\', 'r']
  | '\n' => ['\\', 'n']
  | '"' => ['\\', '"']
  | '\\' => ['\\', '\\']
  | c =>
    if isPrintable c.toNat && !isExtending c.toNat then [c]
    else ['\\', 'u', '\x7b'] ++ Nat.toDigits 16 c.toNat ++ ['\x7d']

/-- A text between quotes. -/
def quoted (s : String) : String := "\"" ++ String.ofList (s.toList.flatMap quotedChar) ++ "\""

end Assessment.Text
