import Assessment.Proofs.Pattern.Bracket

/-!
# Parts before a closing parenthesis

What the counts of a repetition, the start of a group and a single part leave over of a text, and
how they are read when a closing parenthesis follows.

A brace after a part may be the start of counts or a character of its own; which of them is decided
by what follows, and a parenthesis is never among it.

* `reads_countsFrom?`: counts stop at the parenthesis or read past it; without a closing brace they
  are none.
* `reads_openingFrom?`: so does the start of a group, in which the parenthesis ends a change of
  flags.
* `reads_readPrimitive?`: so does a single part, but for the brace after a word boundary.
-/

namespace Assessment.Pattern

open Text

variable {ig : Bool} {n : Nat} {s t u v r : List Char}

/-! ## Counts -/

theorem readCount?_cons (ig : Bool) (n : Nat) (started : Bool) (acc : Nat) (c : Char)
    (rest : List Char) :
    readCount? ig (n + 1) started acc (c :: rest) =
      if isDigit c then readCount? ig n true (acc * 10 + (c.toNat - 0x30)) (skip ig rest)
      else if !started && isBlank c then readCount? ig n false acc rest
      else if started && acc < countBound then some (acc, (c :: rest).dropWhile isBlank)
      else none := rfl

theorem readCount?_nil (ig : Bool) (n : Nat) (started : Bool) (acc : Nat) :
    readCount? ig n started acc [] = none := by
  cases n <;> rfl

theorem leaves_readCount? (n : Nat) (started : Bool) (acc : Nat) (s : List Char) :
    Leaves s (readCount? ig n started acc s) := by
  induction n generalizing started acc s with
  | zero => exact .none
  | succ n ih =>
    cases s with
    | nil => exact .none
    | cons c rest =>
      rw [readCount?_cons]
      split
      · exact ((ih _ _ _).trans (skip_suffix ig rest)).cons c
      · split
        · exact (ih _ _ rest).cons c
        · split
          · exact .some (List.dropWhile_suffix _)
          · exact .none

theorem reads_readCount? {started : Bool} {acc : Nat} (hn : s.length < n) :
    Reads AtOrPast (readCount? ig n started acc s) fun v j =>
      readCount? ig (n + spare v j) started acc (s ++ ')' :: v) := by
  induction n generalizing started acc s with
  | zero => omega
  | succ n ih =>
    cases s with
    | nil => exact .of_none rfl fun v j => leaves_readCount? _ _ _ _
    | cons c rest =>
      have hrest := Nat.lt_of_succ_lt_succ hn
      simp only [Nat.add_right_comm _ 1, List.cons_append, readCount?_cons]
      split
      · have hskip := (skip_suffix ig rest).length_le.trans_lt hrest
        refine .skip (ih hskip) (fun v j u y r hu h => ?_) (.inl (readCount?_nil ig n _ _))
        exact atOrPast_of_suffix ((leaves_readCount? _ _ _ _ y r h).trans hu)
      · split
        · exact ih hrest
        · split
          · refine .stops acc _ rfl fun v j => ?_
            rw [← List.cons_append, dropWhile_closing (by decide)]
          · exact .nothing rfl fun _ _ => rfl

/-- The closing brace after the counts of a repetition. -/
def countsEnd? (counts : Nat × Option Nat) :
    List Char → Option ((Nat × Option Nat) × List Char)
  | [] => none
  | c :: tail => if c = '\x7d' then some (counts, tail) else none

/-- The greatest count of a repetition after the comma, when what is ignored has been left out. -/
def countsMost? (ig : Bool) (least : Nat) : List Char → Option ((Nat × Option Nat) × List Char)
  | [] => none
  | c :: rest =>
    if c = '\x7d' then some ((least, none), rest)
    else (readCount? ig ((c :: rest).length + 1) false 0 (c :: rest)).bind fun p =>
      if least ≤ p.1 then countsEnd? (least, some p.1) p.2 else none

/-- What follows the least count of a repetition. -/
def countsLeast? (ig : Bool) (least : Nat) : List Char → Option ((Nat × Option Nat) × List Char)
  | [] => none
  | c :: rest =>
    if c = '\x7d' then some ((least, some least), rest)
    else if c = ',' then countsMost? ig least (skip ig rest)
    else none

/-- The counts of a repetition, when what is ignored has been left out. -/
def countsFrom? (ig : Bool) (s : List Char) : Option ((Nat × Option Nat) × List Char) :=
  (readCount? ig (s.length + 1) false 0 s).bind fun p => countsLeast? ig p.1 p.2

theorem readCounts?_eq (ig : Bool) (s : List Char) :
    readCounts? ig s = (countsFrom? ig (skip ig s)).map fun p => (p.1.1, p.1.2, p.2) := by
  rw [readCounts?, countsFrom?]
  cases readCount? ig ((skip ig s).length + 1) false 0 (skip ig s) with
  | none => rfl
  | some p =>
    obtain ⟨least, s⟩ := p
    simp only [Option.bind_eq_bind, Option.bind_some]
    split
    · rfl
    · rename_i rest
      rw [countsLeast?, if_neg (by decide), if_pos rfl]
      split
      · rename_i h
        rw [h]
        rfl
      · rename_i hbrace
        cases hs : skip ig rest with
        | nil => rfl
        | cons c tail =>
          rw [countsMost?, if_neg]
          · cases readCount? ig ((c :: tail).length + 1) false 0 (c :: tail) with
            | none => rfl
            | some p =>
              obtain ⟨most, t⟩ := p
              show _ = Option.map _
                (if least ≤ most then countsEnd? (least, some most) t else none)
              dsimp only [Option.bind_some]
              split
              · split <;> rfl
              · rename_i hclose
                split
                · cases t with
                  | nil => rfl
                  | cons d tail =>
                    rw [countsEnd?, if_neg]
                    · rfl
                    · rintro rfl
                      exact hclose tail rfl
                · rfl
          · rintro rfl
            exact hbrace tail hs
    · rename_i hbrace hcomma
      cases s with
      | nil => rfl
      | cons c rest =>
        rw [countsLeast?, if_neg, if_neg]
        · rfl
        · rintro rfl
          exact hcomma rest rfl
        · rintro rfl
          exact hbrace rest rfl

theorem leaves_countsEnd? {counts : Nat × Option Nat} : Leaves s.tail (countsEnd? counts s) := by
  cases s with
  | nil => exact .none
  | cons c tail =>
    rw [countsEnd?]
    split
    · exact .some (List.suffix_refl tail)
    · exact .none

/-- Counts have a closing brace at least. -/
theorem leaves_countsMost? {least : Nat} : Leaves s.tail (countsMost? ig least s) := by
  cases s with
  | nil => exact .none
  | cons c rest =>
    rw [countsMost?]
    split
    · exact .some (List.suffix_refl rest)
    · intro y r h
      obtain ⟨⟨most, t⟩, ht, h⟩ := Option.bind_eq_some_iff.1 h
      split at h
      · exact (leaves_countsEnd? y r h).trans (tail_suffix_tail (leaves_readCount? _ _ _ _ _ _ ht))
      · cases h

theorem leaves_countsLeast? {least : Nat} : Leaves s.tail (countsLeast? ig least s) := by
  cases s with
  | nil => exact .none
  | cons c rest =>
    rw [countsLeast?]
    split
    · exact .some (List.suffix_refl rest)
    · split
      · exact leaves_countsMost?.trans ((List.tail_suffix _).trans (skip_suffix ig rest))
      · exact .none

theorem leaves_countsFrom? : Leaves s.tail (countsFrom? ig s) := by
  intro y r h
  obtain ⟨⟨least, t⟩, ht, h⟩ := Option.bind_eq_some_iff.1 h
  exact (leaves_countsLeast? y r h).trans (tail_suffix_tail (leaves_readCount? _ _ _ _ _ _ ht))

theorem reads_countsMost? {least : Nat} :
    Reads Past (countsMost? ig least s) fun v _ => countsMost? ig least (s ++ ')' :: v) := by
  cases s with
  | nil => exact .of_none rfl fun v _ => leaves_countsMost? (s := ')' :: v)
  | cons c rest =>
    have hlength (v : List Char) : (c :: (rest ++ ')' :: v)).length + 1 =
        (c :: rest).length + 1 + spare v 0 := length_closing (c :: rest) v
    simp only [List.cons_append, countsMost?, hlength]
    split
    · exact .stops _ rest rfl fun _ _ => rfl
    · refine (reads_readCount? (s := c :: rest) (Nat.lt_succ_self _)).unspared.bind
        (fun most r _ => ?_) (fun v _ most u y r hu h => ?_) fun most => .inl ?_
      · dsimp only
        split
        · cases r with
          | nil => exact .nothing rfl fun _ _ => rfl
          | cons d tail =>
            simp only [List.cons_append, countsEnd?]
            split
            · exact .stops _ tail rfl fun _ _ => rfl
            · exact .nothing rfl fun _ _ => rfl
        · exact .nothing rfl fun _ _ => rfl
      · dsimp only at h
        split at h
        · exact (leaves_countsEnd? y r h).trans (tail_suffix_tail hu)
        · cases h
      · exact ite_self none

theorem reads_countsFrom? :
    Reads Past (countsFrom? ig (skip ig s)) fun v _ =>
      countsFrom? ig (skip ig (s ++ ')' :: v)) := by
  refine .skip ?_ (fun v _ u y r hu h => ?_) (.inl rfl)
  · simp only [countsFrom?, length_closing]
    refine (reads_readCount? (Nat.lt_succ_self _)).unspared.bind
      (fun least r _ => ?_) (fun v _ least u y r hu h => ?_) fun least => .inl rfl
    · cases r with
      | nil => exact .nothing rfl fun _ _ => rfl
      | cons c rest =>
        simp only [List.cons_append, countsLeast?]
        split
        · exact .stops _ rest rfl fun _ _ => rfl
        · split
          · refine .skip reads_countsMost? (fun v _ u y r hu h => ?_) (.inl rfl)
            exact ((leaves_countsMost? y r h).trans (List.tail_suffix u)).trans hu
          · exact .nothing rfl fun _ _ => rfl
    · exact (leaves_countsLeast? y r h).trans (tail_suffix_tail hu)
  · exact ((leaves_countsFrom? y r h).trans (List.tail_suffix u)).trans hu

/-! ## Openings -/

theorem readFlags?_cons (change : FlagChange) (negating : Bool) (c : Char) (rest : List Char) :
    readFlags? change negating (c :: rest) =
      if c == ':' || c == ')' then
        if negating && change.off.isEmpty then none else some (change, c :: rest)
      else if c == '-' then
        if negating then none else readFlags? change true rest
      else match flagOf? c with
        | none => none
        | some f =>
          if change.on.contains f || change.off.contains f then none
          else if negating then readFlags? { change with off := change.off ++ [f] } true rest
          else readFlags? { change with on := change.on ++ [f] } false rest := rfl

theorem leaves_readFlags? (change : FlagChange) (negating : Bool) (s : List Char) :
    Leaves s (readFlags? change negating s) := by
  induction s generalizing change negating with
  | nil => exact .none
  | cons c rest ih =>
    rw [readFlags?_cons]
    split
    · split
      · exact .none
      · exact .some (List.suffix_refl _)
    · split
      · split
        · exact .none
        · exact (ih _ _).cons c
      · split
        · exact .none
        · split
          · exact .none
          · split
            · exact (ih _ _).cons c
            · exact (ih _ _).cons c

theorem reads_readFlags? (change : FlagChange) (negating : Bool) (s : List Char) :
    Reads AtOrPast (readFlags? change negating s) fun v _ =>
      readFlags? change negating (s ++ ')' :: v) := by
  induction s generalizing change negating with
  | nil => exact .of_none rfl fun v _ => leaves_readFlags? _ _ _
  | cons c rest ih =>
    simp only [List.cons_append, readFlags?_cons]
    split
    · split
      · exact .nothing rfl fun _ _ => rfl
      · exact .stops change _ rfl fun _ _ => rfl
    · split
      · split
        · exact .nothing rfl fun _ _ => rfl
        · exact ih _ _
      · cases flagOf? c with
        | none => exact .nothing rfl fun _ _ => rfl
        | some f =>
          dsimp only
          split
          · exact .nothing rfl fun _ _ => rfl
          · split
            · exact ih _ _
            · exact ih _ _

theorem isNameChar_closing (first : Bool) : isNameChar first ')' = false := by
  cases first <;> decide +kernel

/-- The closing angle bracket after the name of a group. -/
def nameEnd? (name : List Char) : List Char → Option (List Char × List Char)
  | [] => none
  | c :: tail =>
    if c = '>' ∧ name ≠ [] ∧ isNameChar true name.head! ∧ name.tail.all (isNameChar false) then
      some (name, tail)
    else none

theorem readGroupName?_eq (s : List Char) :
    readGroupName? s =
      nameEnd? (s.takeWhile fun c => c != '>') (s.dropWhile fun c => c != '>') := by
  unfold readGroupName?
  dsimp only
  split
  · rename_i tail c rest hdrop htake
    rw [hdrop, htake, nameEnd?]
    simp
  · rename_i h
    generalize s.takeWhile (fun c => c != '>') = name at h ⊢
    generalize s.dropWhile (fun c => c != '>') = t at h ⊢
    cases t with
    | nil => rfl
    | cons d tail =>
      cases name with
      | nil => rw [nameEnd?, if_neg (by simp)]
      | cons c rest =>
        rw [nameEnd?, if_neg]
        rintro ⟨rfl, -⟩
        exact h tail c rest rfl rfl

/-- No parenthesis is in the name of a group. -/
theorem nameEnd?_of_mem {name : List Char} (h : ')' ∈ name) (t : List Char) :
    nameEnd? name t = none := by
  cases t with
  | nil => rfl
  | cons d tail =>
    rw [nameEnd?, if_neg]
    rintro ⟨-, -, hfirst, hrest⟩
    cases name with
    | nil => cases h
    | cons c rest =>
      obtain h | ⟨_, h⟩ := h
      · rw [List.head!_cons, isNameChar_closing] at hfirst
        cases hfirst
      · have := List.all_eq_true.1 hrest _ h
        rw [isNameChar_closing] at this
        cases this

theorem readGroupName?_closing (s v : List Char) :
    readGroupName? (s ++ ')' :: v) =
      (readGroupName? s).map fun p => (p.1, p.2 ++ ')' :: v) := by
  rw [readGroupName?_eq, readGroupName?_eq]
  obtain ⟨hdrop, htake⟩ | ⟨htake, hdrop⟩ :=
    takeWhile_dropWhile_closing (p := fun c => c != '>') (by decide) s v
  · rw [hdrop, nameEnd?_of_mem htake]
    rfl
  · rw [htake, hdrop]
    cases s.dropWhile fun c => c != '>' with
    | nil => rfl
    | cons d rest =>
      rw [List.cons_append, nameEnd?, nameEnd?]
      split <;> rfl

theorem leaves_readGroupName? : Leaves s (readGroupName? s) := by
  rw [readGroupName?_eq]
  refine Leaves.trans ?_ (List.dropWhile_suffix (l := s) fun c => c != '>')
  cases s.dropWhile fun c => c != '>' with
  | nil => exact .none
  | cons c tail =>
    rw [nameEnd?]
    split
    · exact .some (List.suffix_cons c tail)
    · exact .none

/-- A group with a name. -/
def namedGroup? (s : List Char) : Option (Opening × List Char) :=
  (readGroupName? s).map fun p => (.group noChange (some p.1), p.2)

/-- The opening that a change of flags ends in. -/
def flagsEnd? (change : FlagChange) : List Char → Option (Opening × List Char)
  | [] => none
  | c :: tail =>
    if c = ')' then
      if change.on.isEmpty && change.off.isEmpty then none else some (.flags change, tail)
    else if c = ':' then some (.group change none, tail)
    else none

/-- An opening with a question mark, after an angle bracket. -/
def angleFrom? : List Char → Option (Opening × List Char)
  | [] => none
  | c :: rest => if c = '=' ∨ c = '!' then none else namedGroup? (c :: rest)

/-- An opening with a question mark, after a letter that an angle bracket may follow. -/
def letterFrom? : List Char → Option (Opening × List Char)
  | [] => none
  | c :: rest => if c = '<' then namedGroup? rest else none

/-- An opening after its question mark. -/
def questionFrom? : List Char → Option (Opening × List Char)
  | [] => none
  | c :: rest =>
    if c = '=' ∨ c = '!' then none
    else if c = '<' then angleFrom? rest
    else if c = 'P' then letterFrom? rest
    else (readFlags? noChange false (c :: rest)).bind fun p => flagsEnd? p.1 p.2

/-- The start of a group, when what is ignored has been left out. -/
def openingFrom? : List Char → Option (Opening × List Char)
  | [] => some (.group noChange none, [])
  | c :: rest => if c = '?' then questionFrom? rest else some (.group noChange none, c :: rest)

theorem readOpening?_eq (ig : Bool) (s : List Char) :
    readOpening? ig s = openingFrom? (skip ig s) := by
  rw [readOpening?]
  dsimp only
  split
  · rename_i h
    rw [h]
    rfl
  · rename_i h
    rw [h]
    rfl
  · rename_i h
    rw [h]
    rfl
  · rename_i h
    rw [h]
    rfl
  · rename_i rest h
    rw [h]
    rfl
  · rename_i rest hequal hbang h
    rw [h]
    show namedGroup? rest = angleFrom? rest
    cases rest with
    | nil => rfl
    | cons c rest =>
      rw [angleFrom?, if_neg]
      rintro (rfl | rfl)
      · exact hequal rest rfl
      · exact hbang rest rfl
  · rename_i rest hequal hbang _ _ hname hangle h
    rw [h]
    show _ = questionFrom? rest
    cases rest with
    | nil => rfl
    | cons c rest =>
      rw [questionFrom?, if_neg, if_neg]
      · by_cases hc : c = 'P'
        · subst hc
          rw [if_pos rfl]
          cases rest with
          | nil => rfl
          | cons d more =>
            rw [letterFrom?, if_neg]
            · rfl
            · rintro rfl
              exact hname more rfl
        · rw [if_neg hc]
          cases readFlags? noChange false (c :: rest) with
          | none => rfl
          | some p =>
            obtain ⟨change, t⟩ := p
            show _ = flagsEnd? change t
            cases t with
            | nil => rfl
            | cons d tail =>
              rw [flagsEnd?]
              split
              · rename_i h
                cases h
                rw [if_pos rfl]
              · rename_i h
                cases h
                rw [if_neg (by decide), if_pos rfl]
              · rename_i hclose hcolon
                rw [if_neg, if_neg]
                · rintro rfl
                  exact hcolon change tail rfl
                · rintro rfl
                  exact hclose change tail rfl
      · rintro rfl
        exact hangle rest rfl
      · rintro (rfl | rfl)
        · exact hequal rest rfl
        · exact hbang rest rfl
  · rename_i hquestion
    cases hs : skip ig s with
    | nil => rfl
    | cons c rest =>
      rw [openingFrom?, if_neg]
      rintro rfl
      exact hquestion rest hs

theorem leaves_namedGroup? : Leaves s (namedGroup? s) :=
  leaves_readGroupName?.map fun name => Opening.group noChange (some name)

theorem leaves_flagsEnd? {change : FlagChange} : Leaves s.tail (flagsEnd? change s) := by
  cases s with
  | nil => exact .none
  | cons c tail =>
    rw [flagsEnd?]
    split
    · split
      · exact .none
      · exact .some (List.suffix_refl tail)
    · split
      · exact .some (List.suffix_refl tail)
      · exact .none

theorem leaves_angleFrom? : Leaves s (angleFrom? s) := by
  cases s with
  | nil => exact .none
  | cons c rest =>
    rw [angleFrom?]
    split
    · exact .none
    · exact leaves_namedGroup?

theorem leaves_letterFrom? : Leaves s (letterFrom? s) := by
  cases s with
  | nil => exact .none
  | cons c rest =>
    rw [letterFrom?]
    split
    · exact leaves_namedGroup?.cons c
    · exact .none

theorem leaves_questionFrom? : Leaves s.tail (questionFrom? s) := by
  cases s with
  | nil => exact .none
  | cons c rest =>
    rw [questionFrom?]
    split
    · exact .none
    · split
      · exact leaves_angleFrom?
      · split
        · exact leaves_letterFrom?
        · intro x r h
          obtain ⟨⟨change, t⟩, ht, h⟩ := Option.bind_eq_some_iff.1 h
          exact (leaves_flagsEnd? x r h).trans (tail_suffix_tail (leaves_readFlags? _ _ _ _ _ ht))

theorem leaves_openingFrom? : Leaves s (openingFrom? s) := by
  cases s with
  | nil => exact .some (List.suffix_refl _)
  | cons c rest =>
    rw [openingFrom?]
    split
    · exact (leaves_questionFrom?.trans (List.tail_suffix rest)).cons c
    · exact .some (List.suffix_refl _)

theorem reads_namedGroup? : Reads Past (namedGroup? s) fun v _ => namedGroup? (s ++ ')' :: v) := by
  simp only [namedGroup?, readGroupName?_closing]
  cases readGroupName? s with
  | none => exact .nothing rfl fun _ _ => rfl
  | some p => exact .stops _ p.2 rfl fun _ _ => rfl

theorem reads_questionFrom? :
    Reads Past (questionFrom? s) fun v _ => questionFrom? (s ++ ')' :: v) := by
  cases s with
  | nil => exact .of_none rfl fun v _ => leaves_questionFrom? (s := ')' :: v)
  | cons c rest =>
    simp only [List.cons_append, questionFrom?]
    split
    · exact .nothing rfl fun _ _ => rfl
    · split
      · cases rest with
        | nil => exact reads_namedGroup? (s := [])
        | cons d rest =>
          simp only [List.cons_append, angleFrom?]
          split
          · exact .nothing rfl fun _ _ => rfl
          · exact reads_namedGroup? (s := d :: rest)
      · split
        · cases rest with
          | nil => exact .nothing rfl fun _ _ => rfl
          | cons d rest =>
            simp only [List.cons_append, letterFrom?]
            split
            · exact reads_namedGroup?
            · exact .nothing rfl fun _ _ => rfl
        · refine (reads_readFlags? noChange false (c :: rest)).bind (fun change r _ => ?_)
            (fun v _ change u x r hu h => (leaves_flagsEnd? x r h).trans (tail_suffix_tail hu))
            fun change => .inl rfl
          cases r with
          | nil => exact .of_none rfl fun v _ => leaves_flagsEnd? (s := ')' :: v)
          | cons d tail =>
            simp only [List.cons_append, flagsEnd?]
            split
            · split
              · exact .nothing rfl fun _ _ => rfl
              · exact .stops _ tail rfl fun _ _ => rfl
            · split
              · exact .stops _ tail rfl fun _ _ => rfl
              · exact .nothing rfl fun _ _ => rfl

theorem reads_openingFrom? :
    Reads Past (openingFrom? (skip ig s)) fun v _ => openingFrom? (skip ig (s ++ ')' :: v)) := by
  refine .skip ?_ (fun v _ u x r hu h => (leaves_openingFrom? x r h).trans hu)
    (.inr ⟨_, rfl, fun _ _ => rfl⟩)
  cases skip ig s with
  | nil => exact .stops _ [] rfl fun _ _ => rfl
  | cons c rest =>
    simp only [List.cons_append, openingFrom?]
    split
    · exact reads_questionFrom?
    · exact .stops _ _ rfl fun _ _ => rfl

/-! ## Parts -/

/-- The part that an escape stands for. -/
def nodeOfEscape : Escape → Node
  | .literal l => .literal l
  | .assertion a => .assertion a
  | .letter s negated => .letter s negated
  | .property set negated => .property set negated

/-- The part that a character stands for. -/
def nodeOfChar : Char → Node
  | '.' => .dot
  | '^' => .assertion .startLine
  | '$' => .assertion .endLine
  | c => .literal ⟨c, false⟩

theorem readPrimitive?_cons (ig : Bool) (c : Char) (rest : List Char) :
    readPrimitive? ig (c :: rest) =
      if c = '\\' then (readEscape? ig rest).map fun p => (nodeOfEscape p.1, p.2)
      else if c = '[' then readBracketed? ig rest
      else some (nodeOfChar c, rest) := by
  split
  · rename_i hc
    subst hc
    rw [readPrimitive?]
    cases readEscape? ig rest with
    | none => rfl
    | some p =>
      obtain ⟨e, tail⟩ := p
      cases e <;> rfl
  · rename_i hescape
    split
    · rename_i hc
      subst hc
      rfl
    · rename_i hbracket
      unfold readPrimitive? nodeOfChar
      split
      · rename_i h
        cases h
      · rename_i h
        cases h
        exact absurd rfl hescape
      · rename_i h
        cases h
        rfl
      · rename_i h
        cases h
        rfl
      · rename_i h
        cases h
        rfl
      · rename_i h
        cases h
        exact absurd rfl hbracket
      · rename_i hdot hstart hend _ h
        cases h
        split
        · exact (hdot rfl).elim
        · exact (hstart rfl).elim
        · exact (hend rfl).elim
        · rfl

theorem leaves_readPrimitive? : Leaves s.tail (readPrimitive? ig s) := by
  cases s with
  | nil => exact .none
  | cons c rest =>
    rw [readPrimitive?_cons, List.tail_cons]
    split
    · cases rest with
      | nil => exact .none
      | cons d rest => exact (leaves_readEscape?.map nodeOfEscape).cons d
    · split
      · exact leaves_readBracketed?
      · exact .some (List.suffix_refl rest)

theorem reads_readPrimitive? {c : Char} :
    Reads (PastOrBrace ig) (readPrimitive? ig (c :: s)) fun v _ =>
      readPrimitive? ig (c :: s ++ ')' :: v) := by
  simp only [List.cons_append, readPrimitive?_cons]
  split
  · exact reads_readEscape?.map nodeOfEscape
  · split
    · exact reads_readBracketed?.mono fun _ _ => .inl
    · exact .stops _ s rfl fun _ _ => rfl

end Assessment.Pattern
