import Assessment.Text.Case

/-!
# Small letters

`lowercase` writes a text in small letters, as `fold_case` does for the operators stringMatch and
substring and `key_matches` for the keys of a mapping. Each character has its small form on its own,
with two exceptions: a capital I with a dot keeps the dot as a mark of its own, and a capital sigma
at the end of a word has the final form. A sigma stands at the end when a character with a case
stands before it and none after it, characters that are skipped apart.
-/

namespace Assessment.Text

/-- Whether the next character that counts has a case. -/
def nextIsCased (s : List Char) : Bool :=
  match s.dropWhile fun c => inRanges caseIgnorableRanges c.toNat with
  | c :: _ => inRanges casedRanges c.toNat
  | [] => false

/-- The small form of one character with the characters before it, nearest first, and after it. -/
def smallForm (before : List Char) (c : Char) (after : List Char) : List Char :=
  if c.toNat = 0x130 then [Char.ofNat 0x69, Char.ofNat 0x307]
  else if c.toNat = 0x3A3 then
    [Char.ofNat (if nextIsCased before && !nextIsCased after then 0x3C2 else 0x3C3)]
  else [Char.ofNat (shifted smallRuns c.toNat)]

/-- The small forms of characters that follow others. -/
def lowercaseFrom (before : List Char) : List Char → List Char
  | [] => []
  | c :: rest => smallForm before c rest ++ lowercaseFrom (c :: before) rest

/-- The text in small letters. -/
def lowercase (s : String) : String :=
  String.ofList (lowercaseFrom [] s.toList)

end Assessment.Text
