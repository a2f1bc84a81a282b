import Assessment.Pattern.Category
import Assessment.Pattern.Fold
import Assessment.Pattern.Property

/-!
# Sets of characters

A set is built from ranges by the Boolean operations and by closing it under a change of case.
`CharSet.holds` decides membership. The classes that patterns have names for are such sets: letters,
marks, numbers, digits, blanks, and the characters of words, with and without Unicode.

Headlines:
* `holds_complement`, `holds_union`, `holds_both`: the operations mean what they say.
-/

namespace Assessment.Pattern

open Text

/-- A set of characters, given by their code points. -/
inductive CharSet where
  | ranges (rs : List (Nat × Nat))
  | complement (s : CharSet)
  | union (s t : CharSet)
  | both (s t : CharSet)
  /-- All characters that differ from a member in case alone. -/
  | anyCase (s : CharSet)
  /-- The same for the letters of ASCII. -/
  | anyCaseAscii (s : CharSet)

namespace CharSet

/-- Whether a set holds a code point. -/
def holds : CharSet → Nat → Bool
  | ranges rs, n => inRanges rs n
  | complement s, n => !holds s n
  | union s t, n => holds s n || holds t n
  | both s t, n => holds s n && holds t n
  | anyCase s, n => (alike n).any fun m => holds s m
  | anyCaseAscii s, n => (alikeAscii n).any fun m => holds s m

@[simp] theorem holds_complement (s : CharSet) (n : Nat) :
    (complement s).holds n = !s.holds n := rfl

@[simp] theorem holds_union (s t : CharSet) (n : Nat) :
    (union s t).holds n = (s.holds n || t.holds n) := rfl

@[simp] theorem holds_both (s t : CharSet) (n : Nat) :
    (both s t).holds n = (s.holds n && t.holds n) := rfl

/-- The set without members. -/
def nothing : CharSet := ranges []

/-- The set of all characters. -/
def all : CharSet := ranges [(0, 0x10FFFF)]

/-- The set of one code point. -/
def one (n : Nat) : CharSet := ranges [(n, n)]

/-- The members of `s` that `t` lacks. -/
def without (s t : CharSet) : CharSet := both s (complement t)

/-- The members of exactly one of two sets. -/
def either (s t : CharSet) : CharSet := union (without s t) (without t s)

/-- The members of any of several sets. -/
def unionOf : List CharSet → CharSet
  | [] => nothing
  | [s] => s
  | s :: rest => union s (unionOf rest)

/-- About how many ranges a set has. -/
def size : CharSet → Nat
  | ranges rs => rs.length
  | complement s => size s + 1
  | union s t | both s t => size s + size t
  | anyCase s | anyCaseAscii s => 2 * size s

/-! ## Sets of the Unicode standard -/

/-- Letters. -/
def letter : CharSet :=
  unionOf [ranges Category.lowercaseLetter, ranges Category.uppercaseLetter,
    ranges Category.titlecaseLetter, ranges Category.modifierLetter, ranges Category.otherLetter]

/-- Marks on other characters. -/
def mark : CharSet :=
  unionOf [ranges Category.nonspacingMark, ranges Category.spacingMark,
    ranges Category.enclosingMark]

/-- Numbers. -/
def number : CharSet :=
  unionOf [ranges Category.decimalNumber, ranges Category.letterNumber,
    ranges Category.otherNumber]

/-- Punctuation. -/
def punctuation : CharSet :=
  unionOf [ranges Category.otherPunctuation, ranges Category.connectorPunctuation,
    ranges Category.dashPunctuation, ranges Category.openPunctuation,
    ranges Category.closePunctuation, ranges Category.initialPunctuation,
    ranges Category.finalPunctuation]

/-- Symbols. -/
def symbol : CharSet :=
  unionOf [ranges Category.mathSymbol, ranges Category.currencySymbol,
    ranges Category.modifierSymbol, ranges Category.otherSymbol]

/-- Separators. -/
def separator : CharSet :=
  unionOf [ranges Category.spaceSeparator, ranges Category.lineSeparator,
    ranges Category.paragraphSeparator]

/-- Characters with a category. -/
def assigned : CharSet :=
  unionOf [letter, mark, number, punctuation, symbol, separator, ranges Category.control,
    ranges Category.format, ranges Category.privateUse]

/-- Alphabetic characters. -/
def alphabetic : CharSet :=
  unionOf [letter, ranges Category.letterNumber, ranges Property.otherAlphabetic]

/-- Decimal digits. -/
def digit : CharSet := ranges Category.decimalNumber

/-- Blank characters. -/
def space : CharSet := ranges Property.whiteSpace

/-- The characters of words. -/
def word : CharSet :=
  unionOf [alphabetic, mark, digit, ranges Category.connectorPunctuation,
    ranges Property.joinControl]

/-- Lower-case characters. -/
def lowercase : CharSet :=
  union (ranges Category.lowercaseLetter) (ranges Property.otherLowercase)

/-- Upper-case characters. -/
def uppercase : CharSet :=
  union (ranges Category.uppercaseLetter) (ranges Property.otherUppercase)

/-! ## Their members in ASCII -/

/-- The digits of ASCII. -/
def asciiDigit : CharSet := ranges [(0x30, 0x39)]

/-- The blanks of ASCII. -/
def asciiSpace : CharSet := ranges [(0x09, 0x0D), (0x20, 0x20)]

/-- The characters of words in ASCII. -/
def asciiWord : CharSet := ranges [(0x30, 0x39), (0x41, 0x5A), (0x5F, 0x5F), (0x61, 0x7A)]

end CharSet

end Assessment.Pattern
