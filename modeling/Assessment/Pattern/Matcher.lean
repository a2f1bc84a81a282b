import Assessment.Pattern.Syntax

/-!
# Matchers: what a pattern means

A matcher is a pattern with its flags worked in: sets of characters, conditions on a place, and the
ways to put matchers together. `Node.matcher?` compiles the written form, with the documented
meaning of every part under the flags in force. It is `none` where a set or a literal is not allowed
without Unicode, as it would match bytes that are no text.

Only whether a pattern is found is asked, never where. So a matcher has no groups to report, and a
lazy repetition is the same as a greedy one.
-/

namespace Assessment.Pattern

/-! ## Conditions on a place -/

/-- What is asked of the characters before and after a place. -/
inductive Look where
  | textStart
  | textEnd
  | lineStart
  | lineEnd
  | carriageLineStart
  | carriageLineEnd
  | boundary (word : CharSet)
  | noBoundary (word : CharSet)
  | wordStart (word : CharSet)
  | wordEnd (word : CharSet)
  | wordStartHalf (word : CharSet)
  | wordEndHalf (word : CharSet)

/-- Whether a character stands there and belongs to a set. -/
def standsIn (set : CharSet) (c : Option Char) : Bool :=
  match c with
  | some c => set.holds c.toNat
  | none => false

/-- Whether a place satisfies a condition. -/
def Look.holds (look : Look) (before after : Option Char) : Bool :=
  match look with
  | textStart => before.isNone
  | textEnd => after.isNone
  | lineStart => before.isNone || before == some '\n'
  | lineEnd => after.isNone || after == some '\n'
  | carriageLineStart =>
    before.isNone || before == some '\n' || (before == some '\r' && after != some '\n')
  | carriageLineEnd =>
    after.isNone || after == some '\r' || (after == some '\n' && before != some '\r')
  | boundary word => standsIn word before != standsIn word after
  | noBoundary word => standsIn word before == standsIn word after
  | wordStart word => !standsIn word before && standsIn word after
  | wordEnd word => standsIn word before && !standsIn word after
  | wordStartHalf word => !standsIn word before
  | wordEndHalf word => !standsIn word after

/-! ## Matchers -/

/-- What a pattern matches. -/
inductive Matcher where
  | empty
  | member (set : CharSet)
  | check (look : Look)
  | sequence (a b : Matcher)
  | choice (a b : Matcher)
  | repetition (least : Nat) (most : Option Nat) (inner : Matcher)

namespace Matcher

/-- Whether only empty runs of text can match. -/
def isZeroWidth : Matcher → Bool
  | empty => true
  | member _ => false
  | check _ => true
  | sequence a b | choice a b => isZeroWidth a && isZeroWidth b
  | repetition _ _ inner => isZeroWidth inner

/-- A repetition; what matches only empty runs need not be repeated. -/
def repeated (least : Nat) (most : Option Nat) (inner : Matcher) : Matcher :=
  let (least, most) :=
    if inner.isZeroWidth then (min least 1, some (min (most.getD 1) 1)) else (least, most)
  if most = some 0 then empty
  else if least = 1 && most = some 1 then inner
  else repetition least most inner

end Matcher

/-! ## Compiling -/

/-- The flags in force. -/
structure Switches where
  caseInsensitive : Bool
  multiLine : Bool
  dotMatchesNewline : Bool
  unicode : Bool
  carriageReturn : Bool

/-- The flags at the start of a pattern. -/
def Switches.initial : Switches := ⟨false, false, false, true, false⟩

/-- The value of one flag after a change. -/
def FlagChange.value (change : FlagChange) (flag : Flag) (before : Bool) : Bool :=
  if change.on.contains flag then true
  else if change.off.contains flag then false
  else before

/-- The flags after a change. -/
def Switches.apply (s : Switches) (change : FlagChange) : Switches :=
  ⟨change.value .caseInsensitive s.caseInsensitive, change.value .multiLine s.multiLine,
    change.value .dotMatchesNewline s.dotMatchesNewline, change.value .unicode s.unicode,
    change.value .carriageReturn s.carriageReturn⟩

/-- Whether a set of bytes keeps to ASCII. -/
def keepsToAscii (set : CharSet) : Bool :=
  !((List.range 128).any fun i => set.holds (0x80 + i))

/-- A set after the change of case that is in force and its negation; a set of bytes has to keep to
ASCII. -/
def finishSet? (s : Switches) (negated : Bool) (set : CharSet) : Option CharSet :=
  let folded :=
    if s.caseInsensitive then (if s.unicode then .anyCase set else .anyCaseAscii set) else set
  let result := if negated then .complement folded else folded
  if s.unicode || keepsToAscii result then some result else none

/-- The set of a letter. -/
def letterSet? (s : Switches) (l : LetterSet) (negated : Bool) : Option CharSet :=
  let set : CharSet :=
    match l, s.unicode with
    | .digit, true => .digit
    | .digit, false => .asciiDigit
    | .space, true => .space
    | .space, false => .asciiSpace
    | .word, true => .word
    | .word, false => .asciiWord
  let result := if negated then .complement set else set
  if s.unicode || keepsToAscii result then some result else none

/-- The code point of a member of a set. -/
def memberOf? (s : Switches) (l : Literal) : Option Nat :=
  if s.unicode || l.char.toNat < 0x80 then some l.char.toNat else none

/-- The operands of an operation between sets, closed under the change of case in force. -/
def operand (s : Switches) (set : CharSet) : CharSet :=
  if s.caseInsensitive then (if s.unicode then .anyCase set else .anyCaseAscii set) else set

/-- The set that stands inside brackets. -/
def SetSyntax.set? (s : Switches) : SetSyntax → Option CharSet
  | empty => some .nothing
  | literal l => (memberOf? s l).map CharSet.one
  | range a b => do
    let a ← memberOf? s a
    let b ← memberOf? s b
    pure (.ranges [(a, b)])
  | ascii members negated => finishSet? s negated (.ranges members)
  | property set negated => if s.unicode then finishSet? s negated set else none
  | letter l negated => letterSet? s l negated
  | bracketed negated inner => (set? s inner).bind (finishSet? s negated)
  | union a b => do
    let a ← set? s a
    let b ← set? s b
    pure (.union a b)
  | operation op a b => do
    let a ← set? s a
    let b ← set? s b
    let a := operand s a
    let b := operand s b
    pure <| match op with
      | .intersection => .both a b
      | .difference => .without a b
      | .symmetricDifference => .either a b

/-- The matcher of a literal; a byte past ASCII is none. -/
def Literal.matcher? (s : Switches) (l : Literal) : Option Matcher :=
  let n := l.char.toNat
  if !s.unicode && l.isByte && 0x80 ≤ n then none
  else some (.member (operand s (.one n)))

/-- The matcher of a dot, which needs Unicode. -/
def dotMatcher? (s : Switches) : Option Matcher :=
  if !s.unicode then none
  else if s.dotMatchesNewline then some (.member .all)
  else if s.carriageReturn then
    some (.member (.complement (.ranges [(0x0A, 0x0A), (0x0D, 0x0D)])))
  else some (.member (.complement (.one 0x0A)))

/-- The condition that an assertion stands for. -/
def Assertion.look (s : Switches) (a : Assertion) : Look :=
  let word := if s.unicode then CharSet.word else CharSet.asciiWord
  match a with
  | .startText => .textStart
  | .endText => .textEnd
  | .startLine =>
    if s.multiLine then (if s.carriageReturn then .carriageLineStart else .lineStart)
    else .textStart
  | .endLine =>
    if s.multiLine then (if s.carriageReturn then .carriageLineEnd else .lineEnd) else .textEnd
  | .wordBoundary => .boundary word
  | .notWordBoundary => .noBoundary word
  | .wordStart => .wordStart word
  | .wordEnd => .wordEnd word
  | .wordStartHalf => .wordStartHalf word
  | .wordEndHalf => .wordEndHalf word

namespace Node

mutual

/-- The matcher of a pattern under the flags in force, and the flags after it. -/
def compile? (s : Switches) : Node → Option (Matcher × Switches)
  | empty => some (.empty, s)
  | flags change => some (.empty, s.apply change)
  | literal l => (l.matcher? s).map fun m => (m, s)
  | dot => (dotMatcher? s).map fun m => (m, s)
  | assertion a => some (.check (a.look s), s)
  | letter l negated => (letterSet? s l negated).map fun set => (.member set, s)
  | property set negated =>
    if s.unicode then (finishSet? s negated set).map fun set => (.member set, s) else none
  | bracketed negated inner =>
    ((inner.set? s).bind (finishSet? s negated)).map fun set => (.member set, s)
  | repetition least most inner =>
    match compile? s inner with
    | some (m, s) => some (.repeated least most m, s)
    | none => none
  | group change inner =>
    match compile? (s.apply change) inner with
    | some (m, _) => some (m, s)
    | none => none
  | sequence parts => compileSequence? s parts
  | choice parts => compileChoice? s parts

/-- The matcher of patterns one after the other. -/
def compileSequence? (s : Switches) : List Node → Option (Matcher × Switches)
  | [] => some (.empty, s)
  | p :: rest =>
    match compile? s p with
    | none => none
    | some (m, s) =>
      match compileSequence? s rest with
      | none => none
      | some (r, s) => some (.sequence m r, s)

/-- The matcher of alternatives. -/
def compileChoice? (s : Switches) : List Node → Option (Matcher × Switches)
  | [] => some (.member .nothing, s)
  | p :: rest =>
    match compile? s p with
    | none => none
    | some (m, s) =>
      match compileChoice? s rest with
      | none => none
      | some (r, s) => some (.choice m r, s)

end

/-- The matcher of a pattern. -/
def matcher? (node : Node) : Option Matcher := (compile? .initial node).map fun q => q.1

end Node

end Assessment.Pattern
