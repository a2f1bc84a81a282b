import Assessment.Proofs.Pattern.Closing

/-!
# Escapes before a closing parenthesis

What an escape leaves over of a text, and how it is read when a closing parenthesis follows.

An escape may take further characters: digits, braces, a name. A parenthesis after the text is none
of these, unless the text ends in the middle of the escape.

* `leaves_readEscape?`: an escape leaves over the end of its text.
* `reads_readEscape?`: it stops at the parenthesis or reads past it, but for the brace after the
  letter of a word boundary, which it leaves for a repetition.
-/

namespace Assessment.Pattern

open Text

variable {ig : Bool} {n : Nat} {s : List Char}

/-! ## Escapes -/

theorem leaves_readHexDigits? (acc : Nat) : Leaves s (readHexDigits? ig n acc s) := by
  induction n generalizing acc s with
  | zero => exact .some (List.suffix_refl s)
  | succ n ih =>
    cases s with
    | nil => exact .none
    | cons c rest =>
      rw [readHexDigits?]
      cases hexValue? c with
      | none => exact .none
      | some d => exact ((ih _).trans (skip_suffix ig rest)).cons c

theorem reads_readHexDigits? (acc : Nat) :
    Reads Past (readHexDigits? ig n acc s) fun v _ => readHexDigits? ig n acc (s ++ ')' :: v) := by
  induction n generalizing acc s with
  | zero => exact .stops acc s rfl fun _ _ => rfl
  | succ n ih =>
    cases s with
    | nil => exact .nothing rfl fun _ _ => rfl
    | cons c rest =>
      simp only [List.cons_append, readHexDigits?]
      cases hexValue? c with
      | none => exact .nothing rfl fun _ _ => rfl
      | some d =>
        refine .skip (ih _) (fun v _ u y r hu h => (leaves_readHexDigits? _ y r h).trans hu) ?_
        cases n with
        | zero => exact .inr ⟨_, rfl, fun _ _ => rfl⟩
        | succ n => exact .inl rfl

/-- The digits up to a closing brace, when what is ignored before them has been left out. -/
def bracedFrom? (ig : Bool) (n : Nat) : List Char → Option (List Char × List Char)
  | [] => none
  | c :: rest =>
    if c = '\x7d' then some ([], rest)
    else (readBraced? ig n rest).map fun p => (c :: p.1, p.2)

theorem readBraced?_succ (ig : Bool) (n : Nat) (s : List Char) :
    readBraced? ig (n + 1) s = bracedFrom? ig n (skip ig s) := by
  rw [readBraced?]
  split
  · rename_i h
    rw [h, bracedFrom?]
  · rename_i h
    rw [h, bracedFrom?, if_pos rfl]
  · rename_i c rest hc h
    rw [h, bracedFrom?, if_neg hc]

theorem leaves_bracedFrom? (h : ∀ s, Leaves s (readBraced? ig n s)) :
    Leaves s (bracedFrom? ig n s) := by
  cases s with
  | nil => exact .none
  | cons c rest =>
    rw [bracedFrom?]
    split
    · exact .some (List.suffix_cons c rest)
    · exact ((h rest).map (c :: ·)).cons c

theorem leaves_readBraced? (n : Nat) (s : List Char) : Leaves s (readBraced? ig n s) := by
  induction n generalizing s with
  | zero => exact .none
  | succ n ih =>
    rw [readBraced?_succ]
    exact (leaves_bracedFrom? ih).trans (skip_suffix ig s)

theorem reads_readBraced? (hn : s.length < n) :
    Reads Past (readBraced? ig n s) fun v j => readBraced? ig (n + spare v j) (s ++ ')' :: v) := by
  induction n generalizing s with
  | zero => omega
  | succ n ih =>
    simp only [Nat.add_right_comm _ 1, readBraced?_succ]
    refine .skip ?_ (fun v j u y r hu h => ?_) (.inl rfl)
    · cases hs : skip ig s with
      | nil =>
        exact .of_none rfl fun v j => (leaves_readBraced? _ v).map (')' :: ·)
      | cons c t =>
        have ht := length_of_skip_eq_cons hs
        simp only [List.cons_append, bracedFrom?]
        split
        · exact .stops [] t rfl fun _ _ => rfl
        · exact (ih (by omega)).map (c :: ·)
    · exact (leaves_bracedFrom? (leaves_readBraced? _) y r h).trans hu

theorem reads_braced (s : List Char) :
    Reads Past (readBraced? ig (s.length + 1) s) fun v _ =>
      readBraced? ig ((s ++ ')' :: v).length + 1) (s ++ ')' :: v) := by
  simp only [length_closing]
  exact (reads_readBraced? (Nat.lt_succ_self _)).unspared

/-! ### Characters in hexadecimal digits -/

/-- The character of the digits in braces. -/
def bracedHex? (cs : List Char) : Option Char := do
  let ds ← cs.mapM hexValue?
  if ds.isEmpty then none else charOf? (ds.foldl (fun acc d => acc * 16 + d) 0)

/-- A character in hexadecimal digits, when what is ignored before them has been left out. -/
def hexFrom? (ig : Bool) (count : Nat) : List Char → Option ((Char × Bool) × List Char)
  | [] => none
  | c :: rest =>
    if c = '\x7b' then
      ((readBraced? ig (rest.length + 1) rest).bind fun p =>
        ((bracedHex? p.1).map fun c => (c, false)).map fun x => (x, p.2)).map fun p =>
          (p.1, skip ig p.2)
    else
      (readHexDigits? ig count 0 (c :: rest)).bind fun p =>
        ((charOf? p.1).map fun c => (c, count == 2)).map fun x => (x, p.2)

theorem readHex?_eq (ig : Bool) (count : Nat) (s : List Char) :
    readHex? ig count s = (hexFrom? ig count (skip ig s)).map fun p => (p.1.1, p.1.2, p.2) := by
  rw [readHex?]
  split
  · rename_i h
    rw [h]
    rfl
  · rename_i rest h
    rw [h, hexFrom?, if_pos rfl]
    cases readBraced? ig (rest.length + 1) rest with
    | none => rfl
    | some p =>
      obtain ⟨cs, tail⟩ := p
      simp only [Option.bind_eq_bind, Option.bind_some, bracedHex?]
      cases cs.mapM hexValue? with
      | none => rfl
      | some ds =>
        simp only [Option.bind_some]
        split
        · rfl
        · cases charOf? _ <;> rfl
  · rename_i hnil hbrace
    cases hs : skip ig s with
    | nil => exact absurd hs hnil
    | cons c rest =>
      rw [hexFrom?, if_neg]
      · cases readHexDigits? ig count 0 (c :: rest) with
        | none => rfl
        | some p =>
          simp only [Option.bind_eq_bind, Option.bind_some]
          cases charOf? p.1 <;> rfl
      · rintro rfl
        exact hbrace rest hs

theorem leaves_hexFrom? (count : Nat) : Leaves s (hexFrom? ig count s) := by
  cases s with
  | nil => exact .none
  | cons c rest =>
    rw [hexFrom?]
    split
    · exact (((leaves_readBraced? _ rest).filterMap fun cs =>
        (bracedHex? cs).map fun c => (c, false)).trim ig).cons c
    · exact (leaves_readHexDigits? 0).filterMap fun n => (charOf? n).map fun c => (c, count == 2)

theorem reads_hexFrom? (count : Nat) :
    Reads Past (hexFrom? ig (count + 1) s) fun v _ => hexFrom? ig (count + 1) (s ++ ')' :: v) := by
  cases s with
  | nil => exact .nothing rfl fun _ _ => rfl
  | cons c rest =>
    simp only [List.cons_append, hexFrom?]
    split
    · exact ((reads_braced rest).filterMap fun cs =>
        (bracedHex? cs).map fun c => (c, false)).trim ig
    · exact (reads_readHexDigits? 0).filterMap fun n =>
        (charOf? n).map fun c => (c, count + 1 == 2)

/-! ### Escapes -/

/-- What an escape has after its letter. -/
inductive EscapeTail where
  | nothing (e : Escape)
  /-- One digit and a number of further ones, or digits in braces. -/
  | hex (further : Nat)
  | property (negated : Bool)
  | boundary

/-- What follows the letter of an escape. -/
def escapeTail? (c : Char) : Option EscapeTail :=
  let plain (c : Char) : Option EscapeTail := some (.nothing (.literal ⟨c, false⟩))
  if isEscapable c then plain c
  else match c with
    | 'x' => some (.hex 1)
    | 'u' => some (.hex 3)
    | 'U' => some (.hex 7)
    | 'p' => some (.property false)
    | 'P' => some (.property true)
    | 'd' => some (.nothing (.letter .digit false))
    | 'D' => some (.nothing (.letter .digit true))
    | 's' => some (.nothing (.letter .space false))
    | 'S' => some (.nothing (.letter .space true))
    | 'w' => some (.nothing (.letter .word false))
    | 'W' => some (.nothing (.letter .word true))
    | 'a' => plain (Char.ofNat 0x07)
    | 'f' => plain (Char.ofNat 0x0C)
    | 't' => plain '\t'
    | 'n' => plain '\n'
    | 'r' => plain '\r'
    | 'v' => plain (Char.ofNat 0x0B)
    | 'A' => some (.nothing (.assertion .startText))
    | 'z' => some (.nothing (.assertion .endText))
    | 'b' => some .boundary
    | 'B' => some (.nothing (.assertion .notWordBoundary))
    | '<' => some (.nothing (.assertion .wordStart))
    | '>' => some (.nothing (.assertion .wordEnd))
    | _ => none

/-- Reads an escape after its letter. -/
def EscapeTail.read? (ig : Bool) (rest : List Char) : EscapeTail → Option (Escape × List Char)
  | nothing e => some (e, rest)
  | hex further =>
    (hexFrom? ig (further + 1) (skip ig rest)).map fun p => (.literal ⟨p.1.1, p.1.2⟩, p.2)
  | property negated => (readProperty? ig rest).map fun p => (.property p.1 negated, p.2)
  | boundary => (readBoundary? ig rest).map fun p => (.assertion p.1, p.2)

theorem readEscape?_cons (ig : Bool) (c : Char) (rest : List Char) :
    readEscape? ig (c :: rest) = (escapeTail? c).bind fun k => k.read? ig rest := by
  have hhex (further : Nat) : (readHex? ig (further + 1) rest).map
      (fun p => (Escape.literal ⟨p.1, p.2.1⟩, p.2.2)) =
        EscapeTail.read? ig rest (.hex further) := by
    rw [readHex?_eq, Option.map_map]
    rfl
  simp only [readEscape?, escapeTail?]
  split
  · rfl
  · split
    case h_24 => simp_all only [imp_false, Option.bind_none]
    case h_1 => exact hhex 1
    case h_2 => exact hhex 3
    case h_3 => exact hhex 7
    all_goals rfl

/-! ### Properties -/

/-- The set that `\p` names, when what is ignored before the name has been left out. -/
def propertyFrom? (ig : Bool) : List Char → Option (CharSet × List Char)
  | [] => none
  | c :: rest =>
    if c = '\\' then none
    else if c = '\x7b' then
      (readBraced? ig (rest.length + 1) rest).bind fun p =>
        (setOfQuery? p.1).map fun set => (set, p.2)
    else (setOfName? [c]).map fun set => (set, rest)

theorem readProperty?_eq (ig : Bool) (s : List Char) :
    readProperty? ig s = propertyFrom? ig (skip ig s) := by
  rw [readProperty?]
  split
  · rename_i h
    rw [h]
    rfl
  · rename_i h
    rw [h]
    rfl
  · rename_i rest h
    rw [h, propertyFrom?, if_neg (by decide), if_pos rfl]
    cases readBraced? ig (rest.length + 1) rest with
    | none => rfl
    | some p =>
      simp only [Option.bind_eq_bind, Option.bind_some]
      cases setOfQuery? p.1 <;> rfl
  · rename_i c rest hback hbrace h
    rw [h, propertyFrom?, if_neg hback, if_neg hbrace]

theorem leaves_propertyFrom? : Leaves s.tail (propertyFrom? ig s) := by
  cases s with
  | nil => exact .none
  | cons c rest =>
    rw [propertyFrom?]
    split
    · exact .none
    · split
      · exact (leaves_readBraced? _ rest).filterMap setOfQuery?
      · cases setOfName? [c] with
        | none => exact .none
        | some set => exact .some (List.suffix_refl rest)

theorem reads_readProperty? :
    Reads Past (readProperty? ig s) fun v _ => readProperty? ig (s ++ ')' :: v) := by
  simp only [readProperty?_eq]
  refine .skip ?_ (fun v _ u y r hu h => ?_) (.inl rfl)
  · cases skip ig s with
    | nil => exact .of_none rfl fun v _ => leaves_propertyFrom? (s := ')' :: v)
    | cons c rest =>
      simp only [List.cons_append, propertyFrom?]
      split
      · exact .nothing rfl fun _ _ => rfl
      · split
        · exact (reads_braced rest).filterMap setOfQuery?
        · cases setOfName? [c] with
          | none => exact .nothing rfl fun _ _ => rfl
          | some set => exact .stops set rest rfl fun _ _ => rfl
  · exact ((leaves_propertyFrom? y r h).trans (List.tail_suffix u)).trans hu

/-! ### After the letter -/

/-- The kind of a word boundary for the text after an opening brace, when what is ignored at its
start has been left out; `whole` is the text with the brace. -/
def boundaryFrom? (whole : List Char) : List Char → Option (Assertion × List Char)
  | [] => none
  | c :: more =>
    if isBoundaryChar c then
      match (c :: more).dropWhile isBoundaryChar with
      | '\x7d' :: tail =>
        (boundaryOfName? ((c :: more).takeWhile isBoundaryChar)).map fun a => (a, tail)
      | _ => none
    else some (.wordBoundary, whole)

theorem readBoundary?_brace (ig : Bool) (rest : List Char) :
    readBoundary? ig ('\x7b' :: rest) = boundaryFrom? ('\x7b' :: rest) (skip ig rest) := by
  unfold readBoundary?
  split
  · rename_i h
    cases h
    cases skip ig rest <;> rfl
  · rename_i h
    exact absurd rfl (h rest)

theorem readBoundary?_of_ne {s : List Char} (h : ∀ rest, s ≠ '\x7b' :: rest) :
    readBoundary? ig s = some (.wordBoundary, s) := by
  unfold readBoundary?
  split
  · exact absurd rfl (h _)
  · rfl

theorem rest_boundaryFrom? {whole r : List Char} {a : Assertion}
    (h : boundaryFrom? whole s = some (a, r)) : r <:+ s ∨ r = whole := by
  cases s with
  | nil => cases h
  | cons c more =>
    rw [boundaryFrom?] at h
    split at h
    · split at h
      · rename_i tail hdrop
        obtain ⟨a, -, h⟩ := Option.map_eq_some_iff.1 h
        cases h
        have hsuffix := List.dropWhile_suffix (l := c :: more) isBoundaryChar
        rw [hdrop] at hsuffix
        exact .inl ((List.suffix_cons _ _).trans hsuffix)
      · cases h
    · cases h
      exact .inr rfl

theorem leaves_readBoundary? : Leaves s (readBoundary? ig s) := by
  intro a r h
  by_cases hs : ∃ rest, s = '\x7b' :: rest
  · obtain ⟨rest, rfl⟩ := hs
    rw [readBoundary?_brace] at h
    obtain hr | rfl := rest_boundaryFrom? h
    · exact (hr.trans (skip_suffix ig rest)).trans (List.suffix_cons _ _)
    · exact List.suffix_refl _
  · rw [readBoundary?_of_ne fun rest h => hs ⟨rest, h⟩] at h
    cases h
    exact List.suffix_refl _

/-- A closing parenthesis has been read, or stands after a brace that is open and what is
ignored. -/
def PastOrBrace (ig : Bool) (v r : List Char) : Prop :=
  r <:+ v ∨ ∃ t, r = '\x7b' :: t ∧ skip ig t <:+ ')' :: v

theorem reads_boundaryFrom? {c : Char} {more whole : List Char} :
    Reads Past (boundaryFrom? whole (c :: more)) fun v _ =>
      boundaryFrom? (whole ++ ')' :: v) (c :: more ++ ')' :: v) := by
  have hclosing : isBoundaryChar ')' = false := by decide
  simp only [List.cons_append, boundaryFrom?]
  split
  · simp only [← List.cons_append, takeWhile_closing hclosing, dropWhile_closing hclosing]
    cases (c :: more).dropWhile isBoundaryChar with
    | nil => exact .nothing rfl fun _ _ => rfl
    | cons d tail =>
      by_cases hd : d = '\x7d'
      · subst hd
        cases boundaryOfName? ((c :: more).takeWhile isBoundaryChar) with
        | none => exact .nothing rfl fun _ _ => rfl
        | some a => exact .stops a tail rfl fun _ _ => rfl
      · refine .nothing ?_ fun v _ => ?_ <;>
          · split
            · rename_i h
              cases h
              exact absurd rfl hd
            · rfl
  · exact .stops _ _ rfl fun _ _ => rfl

theorem reads_readBoundary? :
    Reads (PastOrBrace ig) (readBoundary? ig s) fun v _ => readBoundary? ig (s ++ ')' :: v) := by
  by_cases hs : ∃ rest, s = '\x7b' :: rest
  · obtain ⟨rest, rfl⟩ := hs
    simp only [List.cons_append, readBoundary?_brace]
    obtain hskip | ⟨hnil, hcomment⟩ := skip_closing ig rest
    · simp only [hskip]
      cases hrest : skip ig rest with
      | nil =>
        refine .of_none rfl fun v _ a r h => ?_
        cases h
        exact .inr ⟨_, rfl, by rw [hskip, hrest]; exact List.suffix_refl _⟩
      | cons c more => exact reads_boundaryFrom?.mono fun v r h => .inl h
    · rw [hnil]
      refine .of_none rfl fun v _ a r h => ?_
      obtain hr | rfl := rest_boundaryFrom? h
      · exact .inl (hr.trans (hcomment v).1)
      · exact .inr ⟨_, rfl, (hcomment v).1.trans (List.suffix_cons _ _)⟩
  · have hs' : ∀ v rest, s ++ ')' :: v ≠ '\x7b' :: rest := by
      rintro v rest h
      cases s with
      | nil => cases h
      | cons c s =>
        cases h
        exact hs ⟨s, rfl⟩
    refine .stops .wordBoundary s (readBoundary?_of_ne fun rest h => hs ⟨rest, h⟩) fun v _ => ?_
    exact readBoundary?_of_ne (hs' v)

/-! ### After the letter -/

theorem EscapeTail.leaves_read? (k : EscapeTail) : Leaves s (k.read? ig s) := by
  cases k with
  | nothing e => exact .some (List.suffix_refl s)
  | hex further =>
    exact ((leaves_hexFrom? _).map fun x => Escape.literal ⟨x.1, x.2⟩).trans (skip_suffix ig s)
  | property negated =>
    rw [read?, readProperty?_eq]
    exact (leaves_propertyFrom?.map fun set => Escape.property set negated).trans
      ((List.tail_suffix _).trans (skip_suffix ig s))
  | boundary => exact leaves_readBoundary?.map Escape.assertion

theorem leaves_readEscape? {c : Char} : Leaves s (readEscape? ig (c :: s)) := by
  rw [readEscape?_cons]
  cases escapeTail? c with
  | none => exact .none
  | some k => exact k.leaves_read?

theorem EscapeTail.reads_read? {k : EscapeTail} (hk : k ≠ .boundary) :
    Reads Past (k.read? ig s) fun v _ => k.read? ig (s ++ ')' :: v) := by
  cases k with
  | nothing e => exact .stops e s rfl fun _ _ => rfl
  | hex further =>
    refine .map (.skip (reads_hexFrom? further) ?_ (.inl rfl)) fun x => Escape.literal ⟨x.1, x.2⟩
    exact fun v _ u y r hu h => (leaves_hexFrom? _ y r h).trans hu
  | property negated => exact reads_readProperty?.map fun set => Escape.property set negated
  | boundary => exact absurd rfl hk

theorem reads_readEscape? :
    Reads (PastOrBrace ig) (readEscape? ig s) fun v _ => readEscape? ig (s ++ ')' :: v) := by
  cases s with
  | nil => exact .of_none rfl fun v _ e r h => .inl (leaves_readEscape? e r h)
  | cons c rest =>
    simp only [List.cons_append, readEscape?_cons]
    cases escapeTail? c with
    | none => exact .nothing rfl fun _ _ => rfl
    | some k =>
      by_cases hk : k = .boundary
      · rw [hk]
        exact reads_readBoundary?.map Escape.assertion
      · exact (EscapeTail.reads_read? hk).mono fun _ _ => .inl

end Assessment.Pattern
