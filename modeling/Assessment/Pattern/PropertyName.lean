import Assessment.Pattern.CharSet
import Assessment.Pattern.Script
import Assessment.Text.Numeral

/-!
# Names of character properties

The sets that `\p` names: general categories and scripts by their short and long names, and some
properties. A query is one name, or a property and its value with a sign between them.

Case, blanks, hyphens, low lines and a leading `is` do not count in a name.
-/

namespace Assessment.Pattern

open Text CharSet

/-- A name without what does not count in it. -/
def plainName (name : List Char) : String :=
  let small := (name.filter fun c => c.toNat < 0x80).map smallAscii
  let cut := match small with
    | 'i' :: 's' :: rest => rest
    | cs => cs
  String.ofList (cut.filter fun c => c != ' ' && c != '_' && c != '-')

/-- The general categories and their groups, each with its names. -/
def categoryNames : List (List String × CharSet) :=
  [(["l", "letter"], letter),
    (["lc", "casedletter"], unionOf [ranges Category.uppercaseLetter,
      ranges Category.lowercaseLetter, ranges Category.titlecaseLetter]),
    (["lu", "uppercaseletter"], ranges Category.uppercaseLetter),
    (["ll", "lowercaseletter"], ranges Category.lowercaseLetter),
    (["lt", "titlecaseletter"], ranges Category.titlecaseLetter),
    (["lm", "modifierletter"], ranges Category.modifierLetter),
    (["lo", "otherletter"], ranges Category.otherLetter),
    (["m", "mark", "combiningmark"], mark),
    (["mn", "nonspacingmark"], ranges Category.nonspacingMark),
    (["mc", "spacingmark"], ranges Category.spacingMark),
    (["me", "enclosingmark"], ranges Category.enclosingMark),
    (["n", "number"], number),
    (["nd", "decimalnumber", "digit"], ranges Category.decimalNumber),
    (["nl", "letternumber"], ranges Category.letterNumber),
    (["no", "othernumber"], ranges Category.otherNumber),
    (["p", "punctuation", "punct"], punctuation),
    (["pc", "connectorpunctuation"], ranges Category.connectorPunctuation),
    (["pd", "dashpunctuation"], ranges Category.dashPunctuation),
    (["ps", "openpunctuation"], ranges Category.openPunctuation),
    (["pe", "closepunctuation"], ranges Category.closePunctuation),
    (["pi", "initialpunctuation"], ranges Category.initialPunctuation),
    (["pf", "finalpunctuation"], ranges Category.finalPunctuation),
    (["po", "otherpunctuation"], ranges Category.otherPunctuation),
    (["s", "symbol"], symbol),
    (["sm", "mathsymbol"], ranges Category.mathSymbol),
    (["sc", "currencysymbol"], ranges Category.currencySymbol),
    (["sk", "modifiersymbol"], ranges Category.modifierSymbol),
    (["so", "othersymbol"], ranges Category.otherSymbol),
    (["z", "separator"], separator),
    (["zs", "spaceseparator"], ranges Category.spaceSeparator),
    (["zl", "lineseparator"], ranges Category.lineSeparator),
    (["zp", "paragraphseparator"], ranges Category.paragraphSeparator),
    (["c", "other"], unionOf [ranges Category.control, ranges Category.format,
      ranges Category.privateUse, complement assigned]),
    (["cc", "control", "cntrl"], ranges Category.control),
    (["cf", "format"], ranges Category.format),
    (["co", "privateuse"], ranges Category.privateUse),
    (["cn", "unassigned"], complement assigned),
    (["any"], all),
    (["assigned"], assigned),
    (["ascii"], ranges [(0, 0x7F)])]

/-- Properties that are no categories, each with its names. -/
def propertyNames : List (List String × CharSet) :=
  [(["alphabetic", "alpha"], alphabetic),
    (["lowercase", "lower"], lowercase),
    (["uppercase", "upper"], uppercase),
    (["whitespace", "wspace", "space"], space),
    (["cased"], ranges Text.casedRanges),
    (["caseignorable", "ci"], ranges Text.caseIgnorableRanges),
    (["joincontrol", "joinc"], ranges Property.joinControl),
    (["emoji"], ranges Property.emoji),
    (["emojipresentation", "epres"], ranges Property.emojiPresentation),
    (["hexdigit", "hex"], ranges Property.hexDigit),
    (["asciihexdigit", "ahex"], both (ranges Property.hexDigit) (ranges [(0, 0x7F)])),
    (["ideographic", "ideo"], ranges Property.ideographic),
    (["math"], ranges Property.math),
    (["dash"], ranges Property.dash),
    (["quotationmark", "qmark"], ranges Property.quotationMark),
    (["diacritic", "dia"], ranges Property.diacritic)]

/-- The set of a plain name in a list of named sets. -/
def findSet (name : String) (table : List (List String × CharSet)) : Option CharSet :=
  (table.find? fun e => e.1.contains name).map (·.2)

/-- The characters of the script of a plain name. -/
def findScript (name : String) : Option CharSet :=
  (Script.all.find? fun e => e.1.contains name).map fun e => ranges e.2

/-- The set that a name stands for. -/
def setOfName? (name : List Char) : Option CharSet :=
  let plain := plainName name
  findSet plain propertyNames <|> findSet plain categoryNames <|> findScript plain

/-- The set that a value of a property stands for. -/
def setOfValue? (property value : List Char) : Option CharSet :=
  let p := plainName property
  if p == "gc" || p == "generalcategory" then findSet (plainName value) categoryNames
  else if p == "sc" || p == "script" then findScript (plainName value)
  else none

/-- The text before the first occurrence of a mark, and the text after it. -/
def splitAt? (mark : List Char) : List Char → Option (List Char × List Char)
  | [] => none
  | c :: rest =>
    if mark.isPrefixOf (c :: rest) then some ([], (c :: rest).drop mark.length)
    else (splitAt? mark rest).map fun (a, b) => (c :: a, b)

/-- The set that stands between the braces of `\p`: a name, or a property and its value. -/
def setOfQuery? (query : List Char) : Option CharSet :=
  match splitAt? ['!', '='] query with
  | some (p, v) => setOfValue? p v
  | none =>
    match splitAt? [':'] query with
    | some (p, v) => setOfValue? p v
    | none =>
      match splitAt? ['='] query with
      | some (p, v) => setOfValue? p v
      | none => setOfName? query

end Assessment.Pattern
