/-!
# Blank characters: trimming and splitting text

A character is blank when it has the Unicode property `White_Space`. `trim` drops blanks from both
ends of a text; `words` cuts a text into its maximal runs of other characters. Literals of points
and pairs are two words, numbers are trimmed before they are read, and so are the parts of a list of
coordinates.

Headlines:
* `not_isBlank_of_mem_words`: no word holds a blank.
* `ne_nil_of_mem_words`: no word is empty.
-/

namespace Assessment.Text

/-- Whether a character has the Unicode property `White_Space`. -/
def isBlank (c : Char) : Bool :=
  let n := c.toNat
  (0x9 ≤ n && n ≤ 0xD) || n == 0x20 || n == 0x85 || n == 0xA0 || n == 0x1680
    || (0x2000 ≤ n && n ≤ 0x200A) || n == 0x2028 || n == 0x2029 || n == 0x202F || n == 0x205F
    || n == 0x3000

/-- The characters without the blanks at both ends. -/
def trimChars (s : List Char) : List Char :=
  ((s.dropWhile isBlank).reverse.dropWhile isBlank).reverse

/-- The text without the blanks at both ends. -/
def trim (s : String) : String :=
  String.ofList (trimChars s.toList)

/-- Adds a character to the first of the words that follow it, or starts a word. -/
def joinWord (c : Char) (startsWord : Bool) : List (List Char) → List (List Char)
  | [] => [[c]]
  | w :: ws => if startsWord then [c] :: w :: ws else (c :: w) :: ws

/-- The maximal runs of characters that are not blank, in order. -/
def words : List Char → List (List Char)
  | [] => []
  | c :: rest =>
    if isBlank c then words rest
    else joinWord c (rest.head?.all isBlank) (words rest)

theorem mem_joinWord {c : Char} {b : Bool} {ws : List (List Char)} {w : List Char}
    (h : w ∈ joinWord c b ws) : w ∈ ws ∨ w = [c] ∨ ∃ v ∈ ws, w = c :: v := by
  cases ws with
  | nil => simp [joinWord] at h; simp [h]
  | cons v vs =>
    cases b
    · rcases List.mem_cons.1 h with rfl | h
      · exact .inr (.inr ⟨v, List.mem_cons_self .., rfl⟩)
      · exact .inl (List.mem_cons_of_mem _ h)
    · rcases List.mem_cons.1 h with rfl | h
      · exact .inr (.inl rfl)
      · exact .inl h

/-- No word holds a blank. -/
theorem not_isBlank_of_mem_words :
    ∀ {s : List Char} {w : List Char}, w ∈ words s → ∀ c ∈ w, isBlank c = false
  | [], _, h => by simp [words] at h
  | c :: rest, w, h => by
    unfold words at h
    split at h
    · exact not_isBlank_of_mem_words h
    · rename_i hc
      have hc : isBlank c = false := by simpa using hc
      rcases mem_joinWord h with h | rfl | ⟨v, hv, rfl⟩
      · exact not_isBlank_of_mem_words h
      · simpa using hc
      · intro d hd
        rcases List.mem_cons.1 hd with rfl | hd
        · exact hc
        · exact not_isBlank_of_mem_words hv d hd

/-- No word is empty. -/
theorem ne_nil_of_mem_words : ∀ {s : List Char} {w : List Char}, w ∈ words s → w ≠ []
  | [], _, h => by simp [words] at h
  | c :: rest, w, h => by
    unfold words at h
    split at h
    · exact ne_nil_of_mem_words h
    · rcases mem_joinWord h with h | rfl | ⟨v, _, rfl⟩
      · exact ne_nil_of_mem_words h
      · simp
      · simp

/-- The two words of a text of exactly two words. -/
def twoWords? (s : String) : Option (String × String) :=
  match words s.toList with
  | [a, b] => some (String.ofList a, String.ofList b)
  | _ => none

end Assessment.Text
