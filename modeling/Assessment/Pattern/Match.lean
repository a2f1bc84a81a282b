import Assessment.Pattern.Matcher
import Assessment.Pattern.Reader

/-!
# Matching

The places of a text are the gaps between its characters, from zero on. A set of places is a number
whose bits stand for them. A matcher takes the set of places where a run may start to the set of
places where it may end, so no run is tried twice.

The processor compiles patterns with a library of regular expressions, and asks it whether a pattern
is found anywhere in a text. `Engine` is what it relies on: a pattern is compiled or refused, and
what is compiled finds or does not find. An evaluation is given its engine, so that what is proved
about it holds of every engine. `Engine.builtin` is the one that runs here: `compile?` and
`Matcher.findsIn`, under the library's limit on nesting. The library also has a limit on the size
that a pattern compiles to, an approximate one on memory; the engine here has none.
-/

namespace Assessment.Pattern

/-- The places of a text from which a step over a member of a set is possible. -/
def memberPlaces (set : CharSet) (bit : Nat) : List Char → Nat
  | [] => 0
  | c :: rest => (if set.holds c.toNat then bit else 0) ||| memberPlaces set (2 * bit) rest

/-- The places of a text that satisfy a condition, the first one after a given character. -/
def lookPlaces (look : Look) (bit : Nat) (before : Option Char) : List Char → Nat
  | [] => if look.holds before none then bit else 0
  | c :: rest =>
    (if look.holds before (some c) then bit else 0)
      ||| lookPlaces look (2 * bit) (some c) rest

/-- A matcher with the places of one text worked in. -/
inductive Stepper where
  | stay
  /-- Over one character, from the given places. -/
  | across (places : Nat)
  /-- Only at the given places. -/
  | only (places : Nat)
  | sequence (a b : Stepper)
  | choice (a b : Stepper)
  | repetition (least : Nat) (most : Nat) (inner : Stepper)

/-- The matcher for one text: an open repetition ends after as many rounds as there are places. -/
def Matcher.on (text : List Char) : Matcher → Stepper
  | empty => .stay
  | member set => .across (memberPlaces set 1 text)
  | check look => .only (lookPlaces look 1 none text)
  | sequence a b => .sequence (on text a) (on text b)
  | choice a b => .choice (on text a) (on text b)
  | repetition least most inner =>
    .repetition least (most.getD (least + text.length + 1)) (on text inner)

/-- A step taken a number of times; from nowhere it leads nowhere. -/
def stepTimes (step : Nat → Nat) : Nat → Nat → Nat
  | 0, places => places
  | n + 1, places => if places = 0 then 0 else stepTimes step n (step places)

/-- The places reached in at most a number of steps from the new ones among those reached so far. -/
def stepUpTo (step : Nat → Nat) : Nat → Nat → Nat → Nat
  | 0, reached, _ => reached
  | n + 1, reached, new =>
    let next := step new
    let fresh := next ^^^ (next &&& reached)
    if fresh = 0 then reached else stepUpTo step n (reached ||| fresh) fresh

/-- The places where runs end that start at one of the given places. -/
def Stepper.reach : Stepper → Nat → Nat
  | stay, places => places
  | across allowed, places => 2 * (places &&& allowed)
  | only allowed, places => places &&& allowed
  | sequence a b, places => reach b (reach a places)
  | choice a b, places => reach a places ||| reach b places
  | repetition least most inner, places =>
    let start := stepTimes (reach inner) least places
    stepUpTo (reach inner) (most - least) start start

/-- Whether some run of a text matches. -/
def Matcher.findsIn (m : Matcher) (text : List Char) : Bool :=
  (m.on text).reach (Nat.pow 2 (text.length + 1) - 1) != 0

/-- The matcher of the text of a pattern. -/
def compile? (pattern : List Char) : Option Matcher :=
  (Node.read? pattern).bind Node.matcher?

/-- The text of a pattern between marks for the two ends of the text. -/
def anchored (pattern : List Char) : List Char :=
  ['^', '(', '?', ':'] ++ pattern ++ [')', '$']

/-- What an engine is given for a pattern. -/
def anchoredText (pattern : String) : String := String.ofList (anchored pattern.toList)

/-! ## Engines -/

/-- An engine of regular expressions. What it compiles a pattern to tells whether some run of a text
matches; what it does not take is refused with a reason. -/
structure Engine where
  compile : String → Except String (String → Bool)

/-- The deepest that a pattern may nest for the engine that is built in. -/
def nestLimit : Nat := 250

/-- The engine that is built in. It takes every pattern of the syntax that does not nest too deep,
whatever it grows to; the wording of its reasons is its own. -/
def Engine.builtin : Engine where
  compile text :=
    match Node.read? text.toList with
    | none => .error "not a pattern"
    | some node =>
      if nestLimit < node.depth then .error "nested too deep"
      else
        match node.matcher? with
        | none => .error "bytes that are no text"
        | some m => .ok fun text => m.findsIn text.toList

end Assessment.Pattern
