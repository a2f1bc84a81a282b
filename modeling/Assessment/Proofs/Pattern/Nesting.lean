import Assessment.Proofs.Pattern.Part

/-!
# Patterns before a closing parenthesis

How the reader takes the text of a pattern that a closing parenthesis follows. Where the text alone
is read to its end, the reader stops at the parenthesis with the same parts; where it is in a
comment there, the comment goes on. A text that is none alone may be one with more text after the
parenthesis, but the reader has read the parenthesis then.

This is the induction over the reader, with the lemmas on single parts, sets and escapes for its
steps.

* `readParts?`: the reader as a function of its text.
* `reads_readParts?`: it stops at the parenthesis or reads past it.
-/

namespace Assessment.Pattern

open Text

variable {ig : Bool} {n : Nat} {parts choices : List Node} {names : List (List Char)}
  {s t u v r : List Char}

/-! ## The reader as a function of its text -/

/-- What has been read of a pattern: its structure, whether blanks are ignored after it, and the
names of groups up to there. -/
abbrev Reading := Node × Bool × List (List Char)

/-- What has been read up to a place, and the text after it. -/
def Reading.ofPlace (p : Node × Place) : Reading × List Char :=
  ((p.1, p.2.ignoring, p.2.names), p.2.rest)

/-- The pattern that a text starts with, and the text after it. -/
def readParts? (n : Nat) (parts choices : List Node) (ig : Bool) (names : List (List Char))
    (s : List Char) : Option (Reading × List Char) :=
  (readNode? n parts choices ⟨ig, names, s⟩).map Reading.ofPlace

/-- The pattern of parts and alternatives that are given last first. -/
def wholeNode (parts choices : List Node) : Node :=
  Node.ofChoice (Node.ofSequence parts.reverse :: choices).reverse

/-- The rest of a pattern after a repetition of the last part. -/
def repeatedFrom? (n : Nat) (parts choices : List Node) (ig : Bool) (names : List (List Char))
    (counts : Nat × Option Nat) (s : List Char) : Option (Reading × List Char) :=
  (repeatLast? counts.1 counts.2 parts).bind fun parts =>
    readParts? n parts choices ig names (dropLazy s)

/-- The rest of a pattern after the inner part of a group. -/
def groupEnd? (n : Nat) (parts choices : List Node) (ig : Bool) (change : FlagChange)
    (inner : Reading) : List Char → Option (Reading × List Char)
  | [] => none
  | c :: tail =>
    if c = ')' then readParts? n (.group change inner.1 :: parts) choices ig inner.2.2 tail
    else none

/-- The rest of a pattern after the start of a group. -/
def groupFrom? (n : Nat) (parts choices : List Node) (ig : Bool) (names : List (List Char))
    (s : List Char) : Opening → Option (Reading × List Char)
  | .flags change => readParts? n (.flags change :: parts) choices (change.ignoring ig) names s
  | .group change name =>
    if name.any fun n => names.contains n then none
    else (readParts? n [] [] (change.ignoring ig) (name.toList ++ names) s).bind fun p =>
      groupEnd? n parts choices ig change p.1 p.2

/-- The counts of a repetition that is one character. -/
def repetitionOf? : Char → Option (Nat × Option Nat)
  | '?' => some (0, some 1)
  | '*' => some (0, none)
  | '+' => some (1, none)
  | _ => none

/-- The rest of a pattern, when what is ignored has been left out. -/
def partsFrom? (n : Nat) (parts choices : List Node) (ig : Bool) (names : List (List Char)) :
    List Char → Option (Reading × List Char)
  | [] => some ((wholeNode parts choices, ig, names), [])
  | c :: tail =>
    if c = ')' then some ((wholeNode parts choices, ig, names), c :: tail)
    else if c = '|' then
      readParts? n [] (Node.ofSequence parts.reverse :: choices) ig names tail
    else if c = '\x7b' then
      ((countsFrom? ig (skip ig tail)).map fun p => (p.1, skip ig p.2)).bind fun p =>
        repeatedFrom? n parts choices ig names p.1 p.2
    else if c = '(' then
      (openingFrom? (skip ig tail)).bind fun p => groupFrom? n parts choices ig names p.2 p.1
    else
      match repetitionOf? c with
      | some counts => repeatedFrom? n parts choices ig names counts tail
      | none =>
        (readPrimitive? ig (c :: tail)).bind fun p =>
          readParts? n (p.1 :: parts) choices ig names p.2

theorem readParts?_succ (n : Nat) (parts choices : List Node) (ig : Bool)
    (names : List (List Char)) (s : List Char) :
    readParts? (n + 1) parts choices ig names s =
      partsFrom? n parts choices ig names (skip ig s) := by
  rw [readParts?, readNode?]
  dsimp only
  split
  · rename_i h
    rw [h]
    rfl
  · rename_i h
    rw [h]
    rfl
  · rename_i h
    rw [h]
    rfl
  · rename_i tail h
    rw [h]
    show _ = (repeatLast? 0 (some 1) parts).bind _
    cases repeatLast? 0 (some 1) parts <;> rfl
  · rename_i tail h
    rw [h]
    show _ = (repeatLast? 0 none parts).bind _
    cases repeatLast? 0 none parts <;> rfl
  · rename_i tail h
    rw [h]
    show _ = (repeatLast? 1 none parts).bind _
    cases repeatLast? 1 none parts <;> rfl
  · rename_i tail h
    rw [h, partsFrom?, if_neg (by decide), if_neg (by decide), if_pos rfl, readCounts?_eq]
    cases countsFrom? ig (skip ig tail) with
    | none => rfl
    | some p =>
      show _ = (repeatLast? p.1.1 p.1.2 parts).bind _
      dsimp only [Option.map_some]
      cases repeatLast? p.1.1 p.1.2 parts <;> rfl
  · rename_i tail h
    rw [h, partsFrom?, if_neg (by decide), if_neg (by decide), if_neg (by decide), if_pos rfl,
      readOpening?_eq]
    cases openingFrom? (skip ig tail) with
    | none => rfl
    | some p =>
      obtain ⟨o, tail⟩ := p
      cases o with
      | flags change => rfl
      | group change name =>
        dsimp only [Option.bind_some, groupFrom?]
        split
        · rfl
        · rw [readParts?]
          cases readNode? n [] [] ⟨change.ignoring ig, name.toList ++ names, tail⟩ with
          | none => rfl
          | some p =>
            obtain ⟨inner, ig', names', rest⟩ := p
            show _ = groupEnd? n parts choices ig change (inner, ig', names') rest
            cases rest with
            | nil => rfl
            | cons c tail =>
              rw [groupEnd?]
              split
              · rename_i h
                cases h
                rw [if_pos rfl]
                rfl
              · rename_i hclose
                rw [if_neg]
                · rfl
                · rintro rfl
                  exact hclose inner ig' names' tail rfl
  · rename_i hnil hclose hbar hquestion hstar hplus hbrace hopen
    cases hs : skip ig s with
    | nil => exact absurd hs hnil
    | cons c tail =>
      have hcounts : repetitionOf? c = none := by
        unfold repetitionOf?
        split
        · exact absurd hs (hquestion tail)
        · exact absurd hs (hstar tail)
        · exact absurd hs (hplus tail)
        · rfl
      rw [partsFrom?, if_neg, if_neg, if_neg, if_neg, hcounts]
      · cases readPrimitive? ig (c :: tail) <;> rfl
      · rintro rfl
        exact hopen tail hs
      · rintro rfl
        exact hbrace tail hs
      · rintro rfl
        exact hbar tail hs
      · rintro rfl
        exact hclose tail hs

/-! ## What is left over -/

theorem dropLazy_suffix (s : List Char) : dropLazy s <:+ s := by
  unfold dropLazy
  split
  · exact List.suffix_cons _ _
  · exact List.suffix_refl _

theorem dropLazy_closing (s v : List Char) : dropLazy (s ++ ')' :: v) = dropLazy s ++ ')' :: v := by
  cases s with
  | nil => rfl
  | cons c tail =>
    by_cases hc : c = '?'
    · subst hc
      rfl
    · have hkeep (t : List Char) : dropLazy (c :: t) = c :: t := by
        unfold dropLazy
        split
        · rename_i h
          cases h
          exact absurd rfl hc
        · rfl
      rw [List.cons_append, hkeep, hkeep, List.cons_append]

/-- The counts of a repetition, and what is ignored after them. -/
theorem leaves_counts :
    Leaves s ((countsFrom? ig (skip ig s)).map fun p => (p.1, skip ig p.2)) :=
  ((leaves_countsFrom?.trans (List.tail_suffix _)).trans (skip_suffix ig s)).trim ig

section Leaves

variable (ih : ∀ parts choices ig names s, Leaves s (readParts? n parts choices ig names s))
include ih

theorem leaves_repeatedFrom? (counts : Nat × Option Nat) :
    Leaves s (repeatedFrom? n parts choices ig names counts s) := by
  rw [repeatedFrom?]
  cases repeatLast? counts.1 counts.2 parts with
  | none => exact .none
  | some parts => exact (ih _ _ _ _ _).trans (dropLazy_suffix s)

theorem leaves_groupEnd? (change : FlagChange) (inner : Reading) :
    Leaves s (groupEnd? n parts choices ig change inner s) := by
  cases s with
  | nil => exact .none
  | cons c tail =>
    rw [groupEnd?]
    split
    · exact (ih _ _ _ _ tail).cons c
    · exact .none

theorem leaves_groupFrom? (o : Opening) :
    Leaves s (groupFrom? n parts choices ig names s o) := by
  cases o with
  | flags change => exact ih _ _ _ _ s
  | group change name =>
    rw [groupFrom?]
    split
    · exact .none
    · exact (ih _ _ _ _ s).bind fun inner r _ => leaves_groupEnd? ih change inner

theorem leaves_partsFrom? : Leaves s (partsFrom? n parts choices ig names s) := by
  cases s with
  | nil => exact .some (List.suffix_refl _)
  | cons c tail =>
    rw [partsFrom?]
    split
    · exact .some (List.suffix_refl _)
    · split
      · exact (ih _ _ _ _ tail).cons c
      · split
        · refine (leaves_counts.bind fun counts r _ => ?_).cons c
          exact leaves_repeatedFrom? ih counts
        · split
          · refine ((leaves_openingFrom?.trans (skip_suffix ig tail)).bind fun o r _ => ?_).cons c
            exact leaves_groupFrom? ih o
          · split
            · exact (leaves_repeatedFrom? ih _).cons c
            · exact (leaves_readPrimitive?.bind fun part r _ => ih _ _ _ _ r).cons c

end Leaves

theorem leaves_readParts? (n : Nat) (parts choices : List Node) (ig : Bool)
    (names : List (List Char)) (s : List Char) :
    Leaves s (readParts? n parts choices ig names s) := by
  induction n generalizing parts choices ig names s with
  | zero => exact .none
  | succ n ih =>
    rw [readParts?_succ]
    exact (leaves_partsFrom? ih).trans (skip_suffix ig s)

/-! ## Up to the parenthesis -/

/-- A reader that is at the end of its text stops there, or has no steps left. -/
theorem readParts?_nil (n : Nat) (parts choices : List Node) (ig : Bool)
    (names : List (List Char)) :
    readParts? n parts choices ig names [] = none ∨
      ∃ z, readParts? n parts choices ig names [] = some (z, []) ∧
        ∀ v j, readParts? (n + spare v j) parts choices ig names [] = some (z, []) := by
  cases n with
  | zero => exact .inl rfl
  | succ n =>
    have hnil (n : Nat) : readParts? (n + 1) parts choices ig names [] =
        some ((wholeNode parts choices, ig, names), []) := by
      rw [readParts?_succ]
      cases ig <;> rfl
    refine .inr ⟨_, hnil n, fun v j => ?_⟩
    rw [Nat.add_right_comm]
    exact hnil _

theorem repeatedFrom?_nil (n : Nat) (parts choices : List Node) (ig : Bool)
    (names : List (List Char)) (counts : Nat × Option Nat) :
    repeatedFrom? n parts choices ig names counts [] = none ∨
      ∃ z, repeatedFrom? n parts choices ig names counts [] = some (z, []) ∧
        ∀ v j, repeatedFrom? (n + spare v j) parts choices ig names counts [] = some (z, []) := by
  simp only [repeatedFrom?]
  cases repeatLast? counts.1 counts.2 parts with
  | none => exact .inl rfl
  | some parts => exact readParts?_nil n parts choices ig names

theorem groupFrom?_nil (n : Nat) (parts choices : List Node) (ig : Bool)
    (names : List (List Char)) (o : Opening) :
    groupFrom? n parts choices ig names [] o = none ∨
      ∃ z, groupFrom? n parts choices ig names [] o = some (z, []) ∧
        ∀ v j, groupFrom? (n + spare v j) parts choices ig names [] o = some (z, []) := by
  cases o with
  | flags change => exact readParts?_nil n _ _ _ _
  | group change name =>
    simp only [groupFrom?]
    split
    · exact .inl rfl
    · obtain h | ⟨z, h, -⟩ := readParts?_nil n [] [] (change.ignoring ig) (name.toList ++ names)
      · exact .inl (by rw [h]; rfl)
      · exact .inl (by rw [h]; rfl)

theorem skip_brace (ig : Bool) (t : List Char) : skip ig ('\x7b' :: t) = '\x7b' :: t := by
  cases ig <;> rfl

/-- A brace that is open before a closing parenthesis is no repetition. -/
theorem past_readParts? (hu : PastOrBrace ig v u) :
    Leaves v (readParts? n parts choices ig names u) := by
  obtain hu | ⟨t, rfl, ht⟩ := hu
  · exact (leaves_readParts? n _ _ _ _ u).trans hu
  · cases n with
    | zero => exact .none
    | succ n =>
      rw [readParts?_succ, skip_brace, partsFrom?, if_neg (by decide), if_neg (by decide),
        if_pos rfl]
      refine ((leaves_countsFrom?.trans (tail_suffix_tail ht)).trim ig).bind fun counts r _ => ?_
      exact leaves_repeatedFrom? (leaves_readParts? n) counts

section Reads

variable (ih : ∀ {parts choices ig names s}, s.length < n →
  Reads Past (readParts? n parts choices ig names s) fun v j =>
    readParts? (n + spare v j) parts choices ig names (s ++ ')' :: v))
include ih

theorem reads_repeatedFrom? (counts : Nat × Option Nat) (hs : s.length < n) :
    Reads Past (repeatedFrom? n parts choices ig names counts s) fun v j =>
      repeatedFrom? (n + spare v j) parts choices ig names counts (s ++ ')' :: v) := by
  simp only [repeatedFrom?, dropLazy_closing]
  cases repeatLast? counts.1 counts.2 parts with
  | none => exact .nothing rfl fun _ _ => rfl
  | some parts => exact ih ((dropLazy_suffix s).length_le.trans_lt hs)

theorem reads_groupFrom? (o : Opening) (hs : s.length < n) :
    Reads Past (groupFrom? n parts choices ig names s o) fun v j =>
      groupFrom? (n + spare v j) parts choices ig names (s ++ ')' :: v) o := by
  cases o with
  | flags change => exact ih hs
  | group change name =>
    simp only [groupFrom?]
    split
    · exact .nothing rfl fun _ _ => rfl
    · refine (ih hs).bind (fun inner r hr => ?_) (fun v j inner u z r hu h => ?_)
        fun inner => .inl rfl
      · cases r with
        | nil =>
          -- The parenthesis closes this group.
          refine .of_none rfl fun v j => ?_
          simp only [List.nil_append, groupEnd?, if_pos]
          exact leaves_readParts? _ _ _ _ _ v
        | cons c tail =>
          have htail := (List.suffix_cons c tail).trans (leaves_readParts? _ _ _ _ _ s _ _ hr)
          simp only [List.cons_append, groupEnd?]
          split
          · exact ih (htail.length_le.trans_lt hs)
          · exact .nothing rfl fun _ _ => rfl
      · exact (leaves_groupEnd? (leaves_readParts? _) change inner z r h).trans hu

end Reads

/-- **The reader before a closing parenthesis.** -/
theorem reads_readParts? (hn : s.length < n) :
    Reads Past (readParts? n parts choices ig names s) fun v j =>
      readParts? (n + spare v j) parts choices ig names (s ++ ')' :: v) := by
  -- The text is shorter than the number of steps, and what a part leaves over is shorter again.
  induction n generalizing parts choices ig names s with
  | zero => omega
  | succ n ih =>
    simp only [Nat.add_right_comm _ 1, readParts?_succ]
    refine .skip ?_ (fun v j u y r hu h => (leaves_partsFrom? (leaves_readParts? _) y r h).trans hu)
      (.inr ⟨_, rfl, fun _ _ => rfl⟩)
    cases hs : skip ig s with
    | nil => exact .stops _ [] rfl fun _ _ => rfl
    | cons c tail =>
      have htail : tail.length < n := (length_of_skip_eq_cons hs).trans_le (Nat.le_of_lt_succ hn)
      have hshort {t : List Char} (ht : t <:+ tail) : t.length < n := ht.length_le.trans_lt htail
      simp only [List.cons_append, partsFrom?]
      split
      · exact .stops _ _ rfl fun _ _ => rfl
      · split
        · exact ih htail
        · split
          · refine (reads_countsFrom?.trim ig).bind (fun counts r hr => ?_)
              (fun v j counts u z r hu h => ?_) fun counts => repeatedFrom?_nil n _ _ _ _ counts
            · exact reads_repeatedFrom? ih counts (hshort (leaves_counts counts r hr))
            · exact (leaves_repeatedFrom? (leaves_readParts? _) counts z r h).trans hu
          · split
            · refine reads_openingFrom?.bind (fun o r hr => ?_) (fun v j o u z r hu h => ?_)
                fun o => groupFrom?_nil n _ _ _ _ o
              · exact reads_groupFrom? ih o
                  (hshort ((leaves_openingFrom? o r hr).trans (skip_suffix ig tail)))
              · exact (leaves_groupFrom? (leaves_readParts? _) o z r h).trans hu
            · split
              · exact reads_repeatedFrom? ih _ htail
              · refine reads_readPrimitive?.bind (fun part r hr => ?_)
                  (fun v j part u z r hu h => past_readParts? hu z r h)
                  fun part => readParts?_nil n _ _ _ _
                exact ih (hshort (leaves_readPrimitive? part r hr))

end Assessment.Pattern
