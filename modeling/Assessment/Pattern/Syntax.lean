import Assessment.Pattern.CharSet

/-!
# The structure of a pattern

A pattern as it is written: literals, sets in brackets, repetitions, groups with their flags. What
the parts mean depends on the flags in force and is decided when the pattern is compiled.

The processor leaves patterns to a library of regular expressions, whose documented syntax this is.
`Node.depth` counts as the library's limit on nesting does: every bracket, repetition, group,
sequence and choice is a step, and inside brackets so is every operation and every run of two
members or more. A sequence or a choice of one part is that part, so it is no step.
-/

namespace Assessment.Pattern

/-- A switch on how a pattern is read or what its parts mean. -/
inductive Flag where
  | caseInsensitive
  | multiLine
  | dotMatchesNewline
  | swapGreed
  | unicode
  | carriageReturn
  | ignoreBlanks
deriving DecidableEq, Repr

/-- Flags turned on and off. -/
structure FlagChange where
  on : List Flag
  off : List Flag
deriving Repr

/-- A condition on a place in the text. -/
inductive Assertion where
  | startLine
  | endLine
  | startText
  | endText
  | wordBoundary
  | notWordBoundary
  | wordStart
  | wordEnd
  | wordStartHalf
  | wordEndHalf
deriving DecidableEq, Repr

/-- The sets with a letter of their own. -/
inductive LetterSet where
  | digit
  | space
  | word
deriving DecidableEq, Repr

/-- A literal character; one written as two hexadecimal digits may mean a byte. -/
structure Literal where
  char : Char
  isByte : Bool
deriving DecidableEq, Repr

/-- The operations between sets in brackets. -/
inductive SetOperation where
  | intersection
  | difference
  | symmetricDifference
deriving DecidableEq, Repr

/-- What stands inside brackets. -/
inductive SetSyntax where
  | empty
  | literal (l : Literal)
  | range (first last : Literal)
  | ascii (members : List (Nat × Nat)) (negated : Bool)
  | property (set : CharSet) (negated : Bool)
  | letter (s : LetterSet) (negated : Bool)
  | bracketed (negated : Bool) (inner : SetSyntax)
  | union (a b : SetSyntax)
  | operation (op : SetOperation) (a b : SetSyntax)

/-- A pattern as it is written. -/
inductive Node where
  | empty
  | flags (change : FlagChange)
  | literal (l : Literal)
  | dot
  | assertion (a : Assertion)
  | letter (s : LetterSet) (negated : Bool)
  | property (set : CharSet) (negated : Bool)
  | bracketed (negated : Bool) (inner : SetSyntax)
  | repetition (least : Nat) (most : Option Nat) (inner : Node)
  | group (change : FlagChange) (inner : Node)
  | sequence (parts : List Node)
  | choice (parts : List Node)

/-! ## Nesting -/

namespace SetSyntax

/-- How many members stand one after the other. -/
def size : SetSyntax → Nat
  | empty => 0
  | union a b => size a + size b
  | _ => 1

/-- The step of nesting that several members together take; a single one stands alone. -/
def unionStep (s : SetSyntax) : Nat := if 2 ≤ s.size then 1 else 0

/-- How deep the members nest, without the step that they take together. -/
def membersDepth : SetSyntax → Nat
  | bracketed _ inner => membersDepth inner + inner.unionStep + 1
  | union a b => max (membersDepth a) (membersDepth b)
  | operation _ a b => max (membersDepth a + a.unionStep) (membersDepth b + b.unionStep) + 1
  | _ => 0

/-- How deep a set nests: brackets, operations between sets, and several members together. -/
def depth (s : SetSyntax) : Nat := s.membersDepth + s.unionStep

end SetSyntax

namespace Node

mutual

/-- How deep a pattern nests. -/
def depth : Node → Nat
  | bracketed _ inner => inner.depth + 1
  | repetition _ _ inner => depth inner + 1
  | group _ inner => depth inner + 1
  | sequence parts => partsDepth parts + 1
  | choice parts => partsDepth parts + 1
  | _ => 0

/-- The greatest depth of several patterns. -/
def partsDepth : List Node → Nat
  | [] => 0
  | p :: rest => max (depth p) (partsDepth rest)

end

/-- Patterns one after the other; a single one alone. -/
def ofSequence : List Node → Node
  | [] => empty
  | [p] => p
  | parts => sequence parts

/-- Patterns to choose from; a single one alone. -/
def ofChoice : List Node → Node
  | [p] => p
  | parts => choice parts

end Node

end Assessment.Pattern
