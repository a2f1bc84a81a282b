import Assessment.Text.Blank
import Assessment.Text.Numeral

/-!
# Words and trimmed texts

A word is a text of at least one character and without blanks. Words put together with blanks are
taken apart again, and a text without a blank at either end is left alone when it is trimmed.

Points, pairs and directed pairs are written as two words with a space between them, and `split_two`
takes them apart; identifiers are words.

* `trimmed_trimChars`, `trimChars_of_trimmed`: trimming takes the blanks at the ends away, and
  nothing else.
* `isWord_of_twoWords?`, `twoWords?_join`: the two words of a text are words, and two words with a
  space between them are read back.
* `readInt64?_integerText`: so is the text of an integer, which is a word.
-/

namespace Assessment.Text

open Numeric

/-- No blank at either end. -/
def Trimmed (s : List Char) : Prop :=
  (∀ c ∈ s.head?, isBlank c = false) ∧ ∀ c ∈ s.getLast?, isBlank c = false

/-- At least one character, and no blank. -/
def IsWord (s : List Char) : Prop := s ≠ [] ∧ ∀ c ∈ s, isBlank c = false

variable {s w rest : List Char} {a b : String}

/-! ## Trimming -/

theorem not_isBlank_of_mem_head?_dropWhile {c : Char} (h : c ∈ (s.dropWhile isBlank).head?) :
    isBlank c = false := by
  have := List.head?_dropWhile_not isBlank s
  rw [Option.mem_def.1 h] at this
  exact this

theorem dropWhile_isBlank_of_head? (h : ∀ c ∈ s.head?, isBlank c = false) :
    s.dropWhile isBlank = s := by
  cases s with
  | nil => rfl
  | cons c rest => exact List.dropWhile_cons_of_neg (by simp [h c rfl])

/-- A text without a blank at either end stays as it is. -/
theorem trimChars_of_trimmed (h : Trimmed s) : trimChars s = s := by
  have hlast : ∀ c ∈ s.reverse.head?, isBlank c = false := by
    rw [List.head?_reverse]
    exact h.2
  rw [trimChars, dropWhile_isBlank_of_head? h.1, dropWhile_isBlank_of_head? hlast,
    List.reverse_reverse]

/-- A trimmed text has no blank at either end. -/
theorem trimmed_trimChars (s : List Char) : Trimmed (trimChars s) := by
  constructor
  · intro c hc
    -- What is left after the second pass ends as the first pass has begun.
    rw [trimChars, List.head?_reverse] at hc
    refine not_isBlank_of_mem_head?_dropWhile (s := s) ?_
    rw [← List.getLast?_reverse, ← List.takeWhile_append_dropWhile (p := isBlank)
      (l := (s.dropWhile isBlank).reverse), List.getLast?_append, Option.mem_def.1 hc]
    rfl
  · intro c hc
    rw [trimChars, List.getLast?_reverse] at hc
    exact not_isBlank_of_mem_head?_dropWhile hc

theorem IsWord.trimmed (h : IsWord w) : Trimmed w :=
  ⟨fun _ hc => h.2 _ (List.mem_of_mem_head? hc), fun _ hc => h.2 _ (List.mem_of_mem_getLast? hc)⟩

/-! ## Splitting -/

theorem isWord_of_mem_words (h : w ∈ words s) : IsWord w :=
  ⟨ne_nil_of_mem_words h, not_isBlank_of_mem_words h⟩

theorem joinWord_true (c : Char) (ws : List (List Char)) : joinWord c true ws = [c] :: ws := by
  cases ws <;> rfl

/-- A word before a blank is the first word, and a word with nothing after it the only one. -/
theorem words_append_of_isWord (hr : ∀ c ∈ rest.head?, isBlank c) :
    ∀ {w : List Char}, IsWord w → words (w ++ rest) = w :: words rest
  | [], h => absurd rfl h.1
  | [c], h => by
    have hc : isBlank c = false := h.2 c List.mem_cons_self
    have hhead : rest.head?.all isBlank = true := by
      cases rest with
      | nil => rfl
      | cons d _ => exact hr d rfl
    rw [List.singleton_append, words, hc, hhead, joinWord_true]
    rfl
  | c :: d :: w, h => by
    have hc : isBlank c = false := h.2 c List.mem_cons_self
    have hd : isBlank d = false := h.2 d (List.mem_cons_of_mem _ List.mem_cons_self)
    have ih := words_append_of_isWord hr (w := d :: w)
      ⟨List.cons_ne_nil _ _, fun x hx => h.2 x (List.mem_cons_of_mem _ hx)⟩
    rw [List.cons_append, words, hc, ih]
    simp [hd, joinWord]

theorem words_of_isWord (h : IsWord w) : words w = [w] := by
  have h' : words (w ++ []) = w :: words [] := words_append_of_isWord (by simp) h
  rwa [List.append_nil] at h'

/-- The two words of a text are words. -/
theorem isWord_of_twoWords? {t : String} (h : twoWords? t = some (a, b)) :
    IsWord a.toList ∧ IsWord b.toList := by
  unfold twoWords? at h
  split at h
  · rename_i u v huv
    cases h
    have hu : u ∈ words t.toList := by simp [huv]
    have hv : v ∈ words t.toList := by simp [huv]
    simpa using ⟨isWord_of_mem_words hu, isWord_of_mem_words hv⟩
  · cases h

theorem toList_join (a b : String) : (a ++ " " ++ b).toList = a.toList ++ ' ' :: b.toList := by
  simp

theorem trimmed_join (ha : IsWord a.toList) (hb : IsWord b.toList) :
    Trimmed (a ++ " " ++ b).toList := by
  rw [toList_join]
  constructor
  · intro c hc
    rw [List.head?_append, Option.or_of_isSome (List.isSome_head?.2 ha.1)] at hc
    exact ha.trimmed.1 c hc
  · intro c hc
    rw [List.getLast?_append, List.getLast?_cons_of_ne_nil hb.1,
      Option.or_of_isSome (List.getLast?_isSome.2 hb.1)] at hc
    exact hb.trimmed.2 c hc

/-- Two words with a space between them are read back. -/
theorem twoWords?_join (ha : IsWord a.toList) (hb : IsWord b.toList) :
    twoWords? (a ++ " " ++ b) = some (a, b) := by
  have hblank : ∀ c ∈ (' ' :: b.toList).head?, isBlank c := by
    intro c hc
    cases hc
    decide
  have hsplit : words (a.toList ++ ' ' :: b.toList) = [a.toList, b.toList] := by
    rw [words_append_of_isWord hblank ha, words, if_pos (by decide), words_of_isWord hb]
  rw [twoWords?, toList_join, hsplit]
  simp

/-! ## Integers -/

theorem isBlank_of_isDigit {c : Char} (h : isDigit c) : isBlank c = false := by
  simp only [isDigit, Bool.and_eq_true, decide_eq_true_eq] at h
  simp only [isBlank, Bool.or_eq_false_iff, Bool.and_eq_false_iff, decide_eq_false_iff_not,
    beq_eq_false_iff_ne]
  omega

/-- The text of an integer is a word. -/
theorem isWord_integerText (n : Int) : IsWord (integerText n).toList := by
  have hdigits : ∀ c ∈ digits n.natAbs, isBlank c = false := fun c hc =>
    isBlank_of_isDigit (List.all_eq_true.1 (all_isDigit_digits _) c hc)
  rw [integerText, String.toList_ofList, integerChars]
  split
  · refine ⟨List.cons_ne_nil _ _, fun c hc => ?_⟩
    rcases List.mem_cons.1 hc with rfl | hc
    · decide
    · exact hdigits c hc
  · exact ⟨digits_ne_nil _, hdigits⟩

/-- The text of an integer is read back. -/
theorem readInt64?_integerText (n : Int64) : readInt64? (integerText n.toInt) = some n := by
  rw [readInt64?, integerText, String.toList_ofList, readInteger?_integerChars]
  exact fit?_toInt n

end Assessment.Text
