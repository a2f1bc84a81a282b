import Assessment.Pattern.PropertyName
import Assessment.Pattern.Syntax
import Assessment.Text.Blank

/-!
# Reading patterns

`Node.read?` reads the text of a pattern in the syntax that is documented for the library of regular
expressions, and is `none` where the text is no pattern. In a part where blanks are ignored, so are
comments from a `#` to the end of the line. Look-around and references back are no part of the
syntax.

* The text is read once, from left to right; a `Place` is what is left of it, with what is ignored
  there and the names of groups so far. The inside of a group is read by a call for it, and the
  length of the text bounds the calls, so that no pattern is cut off.
* Of the flags the reading asks only for what they say of blanks; a change inside a group ends with
  it.
* How deep a pattern may nest is no question of syntax: that is a limit of the engine that compiles
  it.
-/

namespace Assessment.Pattern

open Text

/-! ## Ignored text -/

/-- The text after the blanks and comments at its start; inside a comment or not. -/
def dropIgnored (inComment : Bool) : List Char → List Char
  | [] => []
  | c :: rest =>
    if inComment then dropIgnored (c != '\n') rest
    else if isBlank c then dropIgnored false rest
    else if c == '#' then dropIgnored true rest
    else c :: rest

/-- The text after what is ignored at its start. -/
def skip (ignoring : Bool) (s : List Char) : List Char :=
  if ignoring then dropIgnored false s else s

/-! ## Escapes -/

/-- What an escape stands for. -/
inductive Escape where
  | literal (l : Literal)
  | assertion (a : Assertion)
  | letter (s : LetterSet) (negated : Bool)
  | property (set : CharSet) (negated : Bool)

/-- The characters with a meaning of their own in patterns. -/
def metaCharacters : List Char :=
  ['\\', '.', '+', '*', '?', '(', ')', '|', '[', ']', '\x7b', '\x7d', '^', '$', '#', '&', '-', '~']

/-- Whether a character is an ASCII letter or digit. -/
def isAsciiAlnum (c : Char) : Bool :=
  let n := c.toNat
  (0x30 ≤ n && n ≤ 0x39) || (0x41 ≤ n && n ≤ 0x5A) || (0x61 ≤ n && n ≤ 0x7A)

/-- Whether a backslash before a character stands for the character itself. -/
def isEscapable (c : Char) : Bool :=
  metaCharacters.contains c
    || (c.toNat < 0x80 && !isAsciiAlnum c && c != '<' && c != '>')

/-- The value of a hexadecimal digit. -/
def hexValue? (c : Char) : Option Nat :=
  let n := c.toNat
  if 0x30 ≤ n && n ≤ 0x39 then some (n - 0x30)
  else if 0x61 ≤ n && n ≤ 0x66 then some (n - 0x57)
  else if 0x41 ≤ n && n ≤ 0x46 then some (n - 0x37)
  else none

/-- The character of a code point. -/
def charOf? (n : Nat) : Option Char :=
  if n.isValidChar then some (Char.ofNat n) else none

/-- The code point written by a given number of hexadecimal digits, after those of value `acc`. -/
def readHexDigits? (ignoring : Bool) : Nat → Nat → List Char → Option (Nat × List Char)
  | 0, acc, s => some (acc, s)
  | _ + 1, _, [] => none
  | n + 1, acc, c :: rest =>
    match hexValue? c with
    | some d => readHexDigits? ignoring n (acc * 16 + d) (skip ignoring rest)
    | none => none

/-- The digits up to a closing brace, and the text after it. -/
def readBraced? (ignoring : Bool) : Nat → List Char → Option (List Char × List Char)
  | 0, _ => none
  | fuel + 1, s =>
    match skip ignoring s with
    | [] => none
    | '\x7d' :: rest => some ([], rest)
    | c :: rest => (readBraced? ignoring fuel rest).map fun (cs, tail) => (c :: cs, tail)

/-- The character written in hexadecimal digits: as many as asked for, or any number in braces. -/
def readHex? (ignoring : Bool) (count : Nat) (s : List Char) :
    Option (Char × Bool × List Char) :=
  match skip ignoring s with
  | [] => none
  | '\x7b' :: rest => do
    let (cs, tail) ← readBraced? ignoring (rest.length + 1) rest
    let ds ← cs.mapM hexValue?
    if ds.isEmpty then none
    else
      let c ← charOf? (ds.foldl (fun acc d => acc * 16 + d) 0)
      pure (c, false, skip ignoring tail)
  | s => do
    let (n, tail) ← readHexDigits? ignoring count 0 s
    let c ← charOf? n
    pure (c, count == 2, tail)

/-- The set that `\p` names, by one letter or in braces. -/
def readProperty? (ignoring : Bool) (s : List Char) : Option (CharSet × List Char) :=
  match skip ignoring s with
  | [] => none
  | '\\' :: _ => none
  | '\x7b' :: rest => do
    let (query, tail) ← readBraced? ignoring (rest.length + 1) rest
    let set ← setOfQuery? query
    pure (set, tail)
  | c :: rest => (setOfName? [c]).map fun set => (set, rest)

/-- Whether a character may stand in the name of a kind of word boundary. -/
def isBoundaryChar (c : Char) : Bool :=
  let n := c.toNat
  (0x41 ≤ n && n ≤ 0x5A) || (0x61 ≤ n && n ≤ 0x7A) || c == '-'

/-- The kinds of word boundaries with names. -/
def boundaryOfName? (name : List Char) : Option Assertion :=
  let s := String.ofList name
  if s == "start" then some .wordStart
  else if s == "end" then some .wordEnd
  else if s == "start-half" then some .wordStartHalf
  else if s == "end-half" then some .wordEndHalf
  else none

/-- A word boundary after its letter: its kind may be named in braces, but a brace that no name
follows is left for a repetition. -/
def readBoundary? (ignoring : Bool) (s : List Char) : Option (Assertion × List Char) :=
  match s with
  | '\x7b' :: rest =>
    match skip ignoring rest with
    | [] => none
    | c :: more =>
      if isBoundaryChar c then
        let inner := c :: more
        match inner.dropWhile isBoundaryChar with
        | '\x7d' :: tail =>
          (boundaryOfName? (inner.takeWhile isBoundaryChar)).map fun a => (a, tail)
        | _ => none
      else some (.wordBoundary, s)
  | _ => some (.wordBoundary, s)

/-- The escape after a backslash, and the text after it. -/
def readEscape? (ignoring : Bool) : List Char → Option (Escape × List Char)
  | [] => none
  | c :: rest =>
    let plain (c : Char) : Option (Escape × List Char) := some (.literal ⟨c, false⟩, rest)
    let hex (count : Nat) : Option (Escape × List Char) :=
      (readHex? ignoring count rest).map fun (c, isByte, tail) => (.literal ⟨c, isByte⟩, tail)
    if isEscapable c then plain c
    else match c with
      | 'x' => hex 2
      | 'u' => hex 4
      | 'U' => hex 8
      | 'p' => (readProperty? ignoring rest).map fun (set, tail) => (.property set false, tail)
      | 'P' => (readProperty? ignoring rest).map fun (set, tail) => (.property set true, tail)
      | 'd' => some (.letter .digit false, rest)
      | 'D' => some (.letter .digit true, rest)
      | 's' => some (.letter .space false, rest)
      | 'S' => some (.letter .space true, rest)
      | 'w' => some (.letter .word false, rest)
      | 'W' => some (.letter .word true, rest)
      | 'a' => plain (Char.ofNat 0x07)
      | 'f' => plain (Char.ofNat 0x0C)
      | 't' => plain '\t'
      | 'n' => plain '\n'
      | 'r' => plain '\r'
      | 'v' => plain (Char.ofNat 0x0B)
      | 'A' => some (.assertion .startText, rest)
      | 'z' => some (.assertion .endText, rest)
      | 'b' => (readBoundary? ignoring rest).map fun (a, tail) => (.assertion a, tail)
      | 'B' => some (.assertion .notWordBoundary, rest)
      | '<' => some (.assertion .wordStart, rest)
      | '>' => some (.assertion .wordEnd, rest)
      | _ => none

/-! ## Sets in brackets -/

/-- The named sets of ASCII. -/
def asciiSets : List (String × List (Nat × Nat)) :=
  [("alnum", [(0x30, 0x39), (0x41, 0x5A), (0x61, 0x7A)]),
    ("alpha", [(0x41, 0x5A), (0x61, 0x7A)]),
    ("ascii", [(0x00, 0x7F)]),
    ("blank", [(0x09, 0x09), (0x20, 0x20)]),
    ("cntrl", [(0x00, 0x1F), (0x7F, 0x7F)]),
    ("digit", [(0x30, 0x39)]),
    ("graph", [(0x21, 0x7E)]),
    ("lower", [(0x61, 0x7A)]),
    ("print", [(0x20, 0x7E)]),
    ("punct", [(0x21, 0x2F), (0x3A, 0x40), (0x5B, 0x60), (0x7B, 0x7E)]),
    ("space", [(0x09, 0x0D), (0x20, 0x20)]),
    ("upper", [(0x41, 0x5A)]),
    ("word", [(0x30, 0x39), (0x41, 0x5A), (0x5F, 0x5F), (0x61, 0x7A)]),
    ("xdigit", [(0x30, 0x39), (0x41, 0x46), (0x61, 0x66)])]

/-- A named set of ASCII between colons, for the text after its opening bracket. -/
def readAsciiSet? (s : List Char) : Option (SetSyntax × List Char) :=
  match s with
  | ':' :: rest =>
    let (negated, rest) := match rest with
      | '^' :: r => (true, r)
      | r => (false, r)
    let name := String.ofList (rest.takeWhile fun c => c != ':')
    match rest.dropWhile fun c => c != ':' with
    | ':' :: ']' :: tail =>
      (asciiSets.lookup name).map fun members => (.ascii members negated, tail)
    | _ => none
  | _ => none

/-- One member of a set, and the text after it. -/
def readSetItem? (ignoring : Bool) : List Char → Option (SetSyntax × List Char)
  | [] => none
  | '\\' :: rest =>
    match readEscape? ignoring rest with
    | some (.literal l, tail) => some (.literal l, tail)
    | some (.letter s negated, tail) => some (.letter s negated, tail)
    | some (.property set negated, tail) => some (.property set negated, tail)
    | _ => none
  | c :: rest => some (.literal ⟨c, false⟩, rest)

/-- One member or a range between two, and the text after it. -/
def readSetRange? (ignoring : Bool) (s : List Char) : Option (SetSyntax × List Char) := do
  let (first, s) ← readSetItem? ignoring s
  match skip ignoring s with
  | [] => none
  | '-' :: rest =>
    match skip ignoring rest with
    | ']' :: _ => pure (first, '-' :: rest)
    | '-' :: _ => pure (first, '-' :: rest)
    | [] => none
    | rest =>
      let (last, tail) ← readSetItem? ignoring rest
      match first, last with
      | .literal a, .literal b =>
        if a.char.toNat ≤ b.char.toNat then pure (.range a b, tail) else none
      | _, _ => none
  | s => pure (first, s)

/-- The hyphens that start a set, as members. -/
def readHyphens? (ignoring : Bool) : Nat → SetSyntax → List Char → Option (SetSyntax × List Char)
  | 0, _, _ => none
  | fuel + 1, members, s =>
    match s with
    | [] => none
    | '-' :: rest =>
      readHyphens? ignoring fuel (.union members (.literal ⟨'-', false⟩)) (skip ignoring rest)
    | s => some (members, s)

/-- What stands at the start of a set: a sign of negation, hyphens, and a closing bracket that is
a member. -/
def readSetStart? (ignoring : Bool) (s : List Char) : Option (Bool × SetSyntax × List Char) := do
  let (negated, s) := match skip ignoring s with
    | '^' :: rest => (true, skip ignoring rest)
    | s => (false, s)
  match s with
  | ']' :: rest =>
    match skip ignoring rest with
    | [] => none
    | s => pure (negated, .literal ⟨']', false⟩, s)
  | s =>
    let (members, s) ← readHyphens? ignoring (s.length + 1) .empty s
    pure (negated, members, s)

/-- A set whose last operation still waits for its second operand. -/
def closeOperation (pending : Option (SetOperation × SetSyntax)) (members : SetSyntax) :
    SetSyntax :=
  match pending with
  | some (op, left) => .operation op left members
  | none => members

/-- The rest of a set up to its closing bracket, after the members read so far. -/
def readSet? (ignoring : Bool) : Nat → Option (SetOperation × SetSyntax) → SetSyntax → List Char →
    Option (SetSyntax × List Char)
  | 0, _, _, _ => none
  | fuel + 1, pending, members, s =>
    let member (read : Option (SetSyntax × List Char)) : Option (SetSyntax × List Char) :=
      match read with
      | some (item, tail) => readSet? ignoring fuel pending (.union members item) tail
      | none => none
    let operation (op : SetOperation) (tail : List Char) : Option (SetSyntax × List Char) :=
      readSet? ignoring fuel (some (op, closeOperation pending members)) .empty tail
    match skip ignoring s with
    | [] => none
    | ']' :: tail => some (closeOperation pending members, tail)
    | '[' :: tail =>
      match readAsciiSet? tail with
      | some found => member (some found)
      | none =>
        match readSetStart? ignoring tail with
        | none => none
        | some (negated, first, s) =>
          match readSet? ignoring fuel none first s with
          | some (inner, tail) => member (some (.bracketed negated inner, tail))
          | none => none
    | '&' :: '&' :: tail => operation .intersection tail
    | '-' :: '-' :: tail => operation .difference tail
    | '~' :: '~' :: tail => operation .symmetricDifference tail
    | s => member (readSetRange? ignoring s)

/-- A set in brackets, for the text after its opening bracket. -/
def readBracketed? (ignoring : Bool) (s : List Char) : Option (Node × List Char) := do
  let (negated, first, s) ← readSetStart? ignoring s
  let (inner, tail) ← readSet? ignoring (s.length + 1) none first s
  pure (.bracketed negated inner, tail)

/-! ## Repetitions -/

/-- The first count that a repetition cannot have. -/
def countBound : Nat := UInt32.size

/-- A count with blanks around it, and the text after it. -/
def readCount? (ignoring : Bool) : Nat → Bool → Nat → List Char → Option (Nat × List Char)
  | 0, _, _, _ => none
  | fuel + 1, started, acc, s =>
    match s with
    | c :: rest =>
      if isDigit c then
        readCount? ignoring fuel true (acc * 10 + (c.toNat - 0x30)) (skip ignoring rest)
      else if !started && isBlank c then readCount? ignoring fuel false acc rest
      else if started && acc < countBound then some (acc, s.dropWhile isBlank)
      else none
    | [] => none

/-- The counts of a repetition up to the closing brace. -/
def readCounts? (ignoring : Bool) (s : List Char) : Option (Nat × Option Nat × List Char) := do
  let s := skip ignoring s
  let (least, s) ← readCount? ignoring (s.length + 1) false 0 s
  match s with
  | '\x7d' :: tail => pure (least, some least, tail)
  | ',' :: rest =>
    match skip ignoring rest with
    | '\x7d' :: tail => pure (least, none, tail)
    | rest =>
      let (most, s) ← readCount? ignoring (rest.length + 1) false 0 rest
      match s with
      | '\x7d' :: tail => if least ≤ most then pure (least, some most, tail) else none
      | _ => none
  | _ => none

/-- The text after the mark of a repetition that prefers few. -/
def dropLazy (s : List Char) : List Char :=
  match s with
  | '?' :: rest => rest
  | s => s

/-- Whether a part can be repeated. -/
def isRepeatable : Node → Bool
  | .empty => false
  | .flags _ => false
  | _ => true

/-- The parts, last first, with the last one repeated. -/
def repeatLast? (least : Nat) (most : Option Nat) : List Node → Option (List Node)
  | [] => none
  | p :: rest => if isRepeatable p then some (.repetition least most p :: rest) else none

/-! ## Groups -/

/-- The flag of a letter. -/
def flagOf? : Char → Option Flag
  | 'i' => some .caseInsensitive
  | 'm' => some .multiLine
  | 's' => some .dotMatchesNewline
  | 'U' => some .swapGreed
  | 'u' => some .unicode
  | 'R' => some .carriageReturn
  | 'x' => some .ignoreBlanks
  | _ => none

/-- The flags up to a colon or a closing parenthesis, which stays; the sign before those turned off
may stand once, with a flag after it. -/
def readFlags? (change : FlagChange) (negating : Bool) : List Char →
    Option (FlagChange × List Char)
  | [] => none
  | c :: rest =>
    if c == ':' || c == ')' then
      if negating && change.off.isEmpty then none else some (change, c :: rest)
    else if c == '-' then
      if negating then none else readFlags? change true rest
    else match flagOf? c with
      | none => none
      | some f =>
        if change.on.contains f || change.off.contains f then none
        else if negating then readFlags? { change with off := change.off ++ [f] } true rest
        else readFlags? { change with on := change.on ++ [f] } false rest

/-- Whether a character may stand in the name of a group, in the first place or after it. -/
def isNameChar (first : Bool) (c : Char) : Bool :=
  c == '_' || CharSet.alphabetic.holds c.toNat
    || (!first && (c == '.' || c == '[' || c == ']' || CharSet.number.holds c.toNat))

/-- The name of a group up to its closing angle bracket. -/
def readGroupName? (s : List Char) : Option (List Char × List Char) :=
  let name := s.takeWhile fun c => c != '>'
  match s.dropWhile fun c => c != '>', name with
  | '>' :: tail, c :: rest =>
    if isNameChar true c && rest.all (isNameChar false) then some (name, tail) else none
  | _, _ => none

/-- How a group starts. -/
inductive Opening where
  /-- A change of flags that has no inner part. -/
  | flags (change : FlagChange)
  /-- A group with a change of flags, and with a name or none. -/
  | group (change : FlagChange) (name : Option (List Char))

/-- No change of flags. -/
def noChange : FlagChange := ⟨[], []⟩

/-- The start of a group, for the text after its parenthesis. -/
def readOpening? (ignoring : Bool) (s : List Char) : Option (Opening × List Char) :=
  let named (s : List Char) : Option (Opening × List Char) :=
    (readGroupName? s).map fun (name, tail) => (.group noChange (some name), tail)
  match skip ignoring s with
  | '?' :: '=' :: _ => none
  | '?' :: '!' :: _ => none
  | '?' :: '<' :: '=' :: _ => none
  | '?' :: '<' :: '!' :: _ => none
  | '?' :: 'P' :: '<' :: rest => named rest
  | '?' :: '<' :: rest => named rest
  | '?' :: rest =>
    match readFlags? noChange false rest with
    | some (change, ')' :: tail) =>
      if change.on.isEmpty && change.off.isEmpty then none else some (.flags change, tail)
    | some (change, ':' :: tail) => some (.group change none, tail)
    | _ => none
  | s => some (.group noChange none, s)

/-- Whether blanks are ignored after a change of flags. -/
def FlagChange.ignoring (change : FlagChange) (before : Bool) : Bool :=
  if change.on.contains .ignoreBlanks then true
  else if change.off.contains .ignoreBlanks then false
  else before

/-! ## Patterns -/

/-- The place of the reader: whether blanks are ignored, the names of groups so far, the text. -/
structure Place where
  ignoring : Bool
  names : List (List Char)
  rest : List Char

/-- The part that one character or escape makes. -/
def readPrimitive? (ignoring : Bool) : List Char → Option (Node × List Char)
  | [] => none
  | '\\' :: rest =>
    match readEscape? ignoring rest with
    | some (.literal l, tail) => some (.literal l, tail)
    | some (.assertion a, tail) => some (.assertion a, tail)
    | some (.letter s negated, tail) => some (.letter s negated, tail)
    | some (.property set negated, tail) => some (.property set negated, tail)
    | none => none
  | '.' :: rest => some (.dot, rest)
  | '^' :: rest => some (.assertion .startLine, rest)
  | '$' :: rest => some (.assertion .endLine, rest)
  | '[' :: rest => readBracketed? ignoring rest
  | c :: rest => some (.literal ⟨c, false⟩, rest)

/-- A pattern up to the end or to a closing parenthesis, which stays. The parts of the current
alternative and the alternatives before it are given last first. -/
def readNode? : Nat → List Node → List Node → Place → Option (Node × Place)
  | 0, _, _, _ => none
  | fuel + 1, parts, choices, place =>
    let rest := skip place.ignoring place.rest
    let finish : Node × Place :=
      (Node.ofChoice (Node.ofSequence parts.reverse :: choices).reverse,
        { place with rest := rest })
    let repeated (least : Nat) (most : Option Nat) (tail : List Char) : Option (Node × Place) :=
      match repeatLast? least most parts with
      | some parts => readNode? fuel parts choices { place with rest := dropLazy tail }
      | none => none
    match rest with
    | [] => some finish
    | ')' :: _ => some finish
    | '|' :: tail =>
      readNode? fuel [] (Node.ofSequence parts.reverse :: choices) { place with rest := tail }
    | '?' :: tail => repeated 0 (some 1) tail
    | '*' :: tail => repeated 0 none tail
    | '+' :: tail => repeated 1 none tail
    | '\x7b' :: tail =>
      match readCounts? place.ignoring tail with
      | some (least, most, tail) => repeated least most (skip place.ignoring tail)
      | none => none
    | '(' :: tail =>
      match readOpening? place.ignoring tail with
      | none => none
      | some (.flags change, tail) =>
        readNode? fuel (.flags change :: parts) choices
          { place with rest := tail, ignoring := change.ignoring place.ignoring }
      | some (.group change name, tail) =>
        if name.any fun n => place.names.contains n then none
        else
          let names := name.toList ++ place.names
          match readNode? fuel [] [] ⟨change.ignoring place.ignoring, names, tail⟩ with
          | some (inner, ⟨_, names, ')' :: tail⟩) =>
            readNode? fuel (.group change inner :: parts) choices
              ⟨place.ignoring, names, tail⟩
          | _ => none
    | _ =>
      match readPrimitive? place.ignoring rest with
      | some (p, tail) => readNode? fuel (p :: parts) choices { place with rest := tail }
      | none => none

/-- The pattern that a text writes, however deep it nests. -/
def Node.read? (text : List Char) : Option Node :=
  match readNode? (text.length + 1) [] [] ⟨false, [], text⟩ with
  | some (node, ⟨_, _, []⟩) => some node
  | _ => none

end Assessment.Pattern
