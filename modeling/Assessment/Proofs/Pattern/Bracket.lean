import Assessment.Proofs.Pattern.Escape

/-!
# Sets in brackets before a closing parenthesis

What a set in brackets leaves over of a text, and how it is read when a closing parenthesis follows.
Inside brackets the parenthesis is a member, so that a set that is open at the end of the text reads
past it. On the way there a member or a range may leave it over.

The reader is the one of the documented syntax, where brackets nest and take operations.

* `leaves_readBracketed?`: a set leaves over the end of its text.
* `reads_readBracketed?`: it stops at the parenthesis or reads past it.
-/

namespace Assessment.Pattern

open Text

variable {ig negated : Bool} {n : Nat} {s t u v r : List Char} {members first : SetSyntax}

/-! ## Members -/

/-- The member of a set that an escape stands for. -/
def setMember? : Escape → Option SetSyntax
  | .literal l => some (.literal l)
  | .letter s negated => some (.letter s negated)
  | .property set negated => some (.property set negated)
  | .assertion _ => none

theorem readSetItem?_cons (ig : Bool) (c : Char) (rest : List Char) :
    readSetItem? ig (c :: rest) =
      if c = '\\' then
        (readEscape? ig rest).bind fun p => (setMember? p.1).map fun x => (x, p.2)
      else some (.literal ⟨c, false⟩, rest) := by
  split
  · rename_i hc
    subst hc
    rw [readSetItem?]
    cases readEscape? ig rest with
    | none => rfl
    | some p =>
      obtain ⟨e, tail⟩ := p
      cases e <;> rfl
  · rename_i hc
    unfold readSetItem?
    split
    · rename_i h
      cases h
    · rename_i h
      cases h
      exact absurd rfl hc
    · rename_i h
      cases h
      rfl

theorem leaves_readSetItem? : Leaves s.tail (readSetItem? ig s) := by
  cases s with
  | nil => exact .none
  | cons c rest =>
    rw [readSetItem?_cons]
    split
    · cases rest with
      | nil => exact .none
      | cons d rest => exact (leaves_readEscape?.filterMap setMember?).cons d
    · exact .some (List.suffix_refl rest)

theorem reads_readSetItem? :
    Reads Past (readSetItem? ig s) fun v _ => readSetItem? ig (s ++ ')' :: v) := by
  cases s with
  | nil => exact .of_none rfl fun v _ => leaves_readSetItem? (s := ')' :: v)
  | cons c rest =>
    simp only [List.cons_append, readSetItem?_cons]
    split
    · cases rest with
      | nil => exact .of_none rfl fun v _ => leaves_readEscape?.filterMap setMember?
      | cons d rest =>
        simp only [List.cons_append, readEscape?_cons]
        cases escapeTail? d with
        | none => exact .nothing rfl fun _ _ => rfl
        | some k =>
          by_cases hk : k = .boundary
          · -- A word boundary is no member.
            subst hk
            have hnone (s : List Char) : ((EscapeTail.boundary.read? ig s).bind fun p =>
                (setMember? p.1).map fun x => (x, p.2)) = none := by
              rw [EscapeTail.read?]
              cases readBoundary? ig s <;> rfl
            exact .nothing (hnone rest) fun v _ => hnone (rest ++ ')' :: v)
          · exact (EscapeTail.reads_read? hk).filterMap setMember?
    · exact .stops _ rest rfl fun _ _ => rfl

/-! ## Ranges -/

/-- A range between two literals that are in order. -/
def rangeOf? : SetSyntax → SetSyntax → Option SetSyntax
  | .literal a, .literal b => if a.char.toNat ≤ b.char.toNat then some (.range a b) else none
  | _, _ => none

/-- What follows the hyphen after a member, when what is ignored has been left out; `rest` is the
text after the hyphen. -/
def rangeEnd? (ig : Bool) (first : SetSyntax) (rest : List Char) :
    List Char → Option (SetSyntax × List Char)
  | [] => none
  | c :: more =>
    if c = ']' ∨ c = '-' then some (first, '-' :: rest)
    else (readSetItem? ig (c :: more)).bind fun p => (rangeOf? first p.1).map fun x => (x, p.2)

/-- What follows a member, when what is ignored has been left out. -/
def rangeFrom? (ig : Bool) (first : SetSyntax) : List Char → Option (SetSyntax × List Char)
  | [] => none
  | c :: rest => if c = '-' then rangeEnd? ig first rest (skip ig rest) else some (first, c :: rest)

theorem readSetRange?_eq (ig : Bool) (s : List Char) :
    readSetRange? ig s =
      (readSetItem? ig s).bind fun p => rangeFrom? ig p.1 (skip ig p.2) := by
  rw [readSetRange?]
  cases readSetItem? ig s with
  | none => rfl
  | some p =>
    obtain ⟨first, s⟩ := p
    simp only [Option.bind_eq_bind, Option.bind_some]
    split
    · rename_i h
      rw [h]
      rfl
    · rename_i rest h
      rw [h, rangeFrom?, if_pos rfl]
      cases skip ig rest with
      | nil => rfl
      | cons d more =>
        rw [rangeEnd?]
        split
        · rename_i h
          cases h
          rfl
        · rename_i h
          cases h
          rfl
        · rename_i h
          cases h
        · rename_i hbracket hhyphen _
          rw [if_neg]
          · cases readSetItem? ig (d :: more) with
            | none => rfl
            | some p =>
              obtain ⟨last, tail⟩ := p
              simp only [Option.bind_some]
              cases first <;> try rfl
              cases last <;> try rfl
              simp only [rangeOf?]
              split <;> rfl
          · rintro (rfl | rfl)
            · exact hbracket more rfl
            · exact hhyphen more rfl
    · rename_i hnil hhyphen
      cases hs : skip ig s with
      | nil => exact absurd hs hnil
      | cons c rest =>
        rw [rangeFrom?, if_neg]
        · rfl
        · rintro rfl
          exact hhyphen rest hs

theorem rest_rangeEnd? {x : SetSyntax} (h : rangeEnd? ig first t u = some (x, r)) :
    r <:+ u.tail ∨ r = '-' :: t := by
  cases u with
  | nil => cases h
  | cons c more =>
    rw [rangeEnd?] at h
    split at h
    · cases h
      exact .inr rfl
    · exact .inl (leaves_readSetItem?.filterMap (rangeOf? first) x r h)

theorem leaves_rangeFrom? : Leaves s (rangeFrom? ig first s) := by
  cases s with
  | nil => exact .none
  | cons c rest =>
    rw [rangeFrom?]
    split
    · rename_i hc
      subst hc
      intro x r h
      obtain hr | rfl := rest_rangeEnd? h
      · exact ((hr.trans (List.tail_suffix _)).trans (skip_suffix ig rest)).trans
          (List.suffix_cons _ rest)
      · exact List.suffix_refl _
    · exact .some (List.suffix_refl _)

theorem leaves_readSetRange? : Leaves s.tail (readSetRange? ig s) := by
  rw [readSetRange?_eq]
  refine leaves_readSetItem?.bind fun x r _ => ?_
  exact leaves_rangeFrom?.trans (skip_suffix ig r)

/-- A closing parenthesis has been read or stands first, or it stands after a hyphen and what is
ignored of a comment. -/
def PastOrHyphen (ig : Bool) (v r : List Char) : Prop :=
  r <:+ ')' :: v ∨ ∃ t, r = '-' :: t ∧ skip ig t <:+ v

theorem reads_readSetRange? :
    Reads (PastOrHyphen ig) (readSetRange? ig s) fun v _ => readSetRange? ig (s ++ ')' :: v) := by
  have hcons {v r : List Char} (h : r <:+ v) : PastOrHyphen ig v r :=
    .inl (h.trans (List.suffix_cons _ v))
  simp only [readSetRange?_eq]
  refine reads_readSetItem?.bind (fun first s _ => ?_) (fun v _ y u z r hu h => ?_) fun _ => ?_
  · refine .skip ?_ (fun v _ u y r hu h => hcons ((leaves_rangeFrom? y r h).trans hu)) (.inl rfl)
    cases skip ig s with
    | nil => exact .of_none rfl fun v _ y r h => .inl (leaves_rangeFrom? y r h)
    | cons c rest =>
      simp only [List.cons_append, rangeFrom?]
      split
      · -- What is ignored after the hyphen may be a comment up to the end of the text.
        obtain hskip | ⟨hnil, hcomment⟩ := skip_closing ig rest
        · simp only [hskip]
          cases skip ig rest with
          | nil =>
            refine .of_none rfl fun v _ => ?_
            simp only [List.nil_append, rangeEnd?, if_neg (show ¬(')' = ']' ∨ ')' = '-') by decide)]
            exact fun y r h => hcons (leaves_readSetItem?.filterMap (rangeOf? first) y r h)
          | cons d more =>
            simp only [List.cons_append, rangeEnd?]
            split
            · exact .stops first _ rfl fun _ _ => rfl
            · exact (reads_readSetItem?.filterMap (rangeOf? first)).mono fun _ _ => hcons
        · rw [hnil]
          refine .of_none rfl fun v _ y r h => ?_
          obtain hr | rfl := rest_rangeEnd? h
          · exact hcons ((hr.trans (List.tail_suffix _)).trans (hcomment v).1)
          · exact .inr ⟨_, rfl, (hcomment v).1⟩
      · exact .stops first _ rfl fun _ _ => rfl
  · exact hcons (((leaves_rangeFrom? z r h).trans (skip_suffix ig u)).trans hu)
  · cases ig <;> exact .inl rfl

/-! ## The start of a set -/

theorem readHyphens?_cons (ig : Bool) (n : Nat) (members : SetSyntax) (c : Char)
    (rest : List Char) :
    readHyphens? ig (n + 1) members (c :: rest) =
      if c = '-' then readHyphens? ig n (.union members (.literal ⟨'-', false⟩)) (skip ig rest)
      else some (members, c :: rest) := by
  split
  · rename_i hc
    subst hc
    rfl
  · rename_i hc
    rw [readHyphens?]
    · rintro ⟨⟩
    · rintro rest ⟨⟩
      exact hc rfl

theorem readHyphens?_nil (ig : Bool) (n : Nat) (members : SetSyntax) :
    readHyphens? ig n members [] = none := by
  cases n <;> rfl

theorem leaves_readHyphens? (n : Nat) (members : SetSyntax) (s : List Char) :
    Leaves s (readHyphens? ig n members s) := by
  induction n generalizing members s with
  | zero => exact .none
  | succ n ih =>
    cases s with
    | nil => exact .none
    | cons c rest =>
      rw [readHyphens?_cons]
      split
      · exact ((ih _ _).trans (skip_suffix ig rest)).cons c
      · exact .some (List.suffix_refl _)

theorem reads_readHyphens? (hn : s.length < n) :
    Reads AtOrPast (readHyphens? ig n members s) fun v j =>
      readHyphens? ig (n + spare v j) members (s ++ ')' :: v) := by
  induction n generalizing members s with
  | zero => omega
  | succ n ih =>
    cases s with
    | nil => exact .of_none rfl fun v j => leaves_readHyphens? _ _ _
    | cons c rest =>
      have hrest : (skip ig rest).length < n :=
        (skip_suffix ig rest).length_le.trans_lt (Nat.lt_of_succ_lt_succ hn)
      simp only [Nat.add_right_comm _ 1, List.cons_append, readHyphens?_cons]
      split
      · refine .skip (ih hrest) (fun v j u y r hu h => ?_) (.inl (readHyphens?_nil ig n _))
        exact atOrPast_of_suffix ((leaves_readHyphens? _ _ _ y r h).trans hu)
      · exact .stops members _ rfl fun _ _ => rfl

/-- What follows a closing bracket that is the first member. -/
def bracketFirst? (negated : Bool) : List Char → Option ((Bool × SetSyntax) × List Char)
  | [] => none
  | c :: rest => some ((negated, .literal ⟨']', false⟩), c :: rest)

/-- The start of a set after its sign of negation, when what is ignored has been left out. -/
def setStart? (ig negated : Bool) : List Char → Option ((Bool × SetSyntax) × List Char)
  | [] => none
  | c :: rest =>
    if c = ']' then bracketFirst? negated (skip ig rest)
    else (readHyphens? ig ((c :: rest).length + 1) .empty (c :: rest)).map fun p =>
      ((negated, p.1), p.2)

/-- The start of a set, when what is ignored has been left out. -/
def setOpening? (ig : Bool) : List Char → Option ((Bool × SetSyntax) × List Char)
  | [] => none
  | c :: rest =>
    if c = '^' then setStart? ig true (skip ig rest) else setStart? ig false (c :: rest)

theorem readSetStart?_eq (ig : Bool) (s : List Char) :
    readSetStart? ig s = (setOpening? ig (skip ig s)).map fun p => (p.1.1, p.1.2, p.2) := by
  rw [readSetStart?]
  split
  rename_i negated t hsign
  have hopening : setOpening? ig (skip ig s) = setStart? ig negated t := by
    split at hsign
    · rename_i rest h
      cases hsign
      rw [h, setOpening?, if_pos rfl]
    · rename_i hcaret
      cases hsign
      cases hs : skip ig s with
      | nil => rfl
      | cons c rest =>
        rw [setOpening?, if_neg]
        rintro rfl
        exact hcaret rest hs
  rw [hopening]
  cases t with
  | nil => rfl
  | cons c rest =>
    split
    · rename_i h
      cases h
      rw [setStart?, if_pos rfl]
      cases skip ig rest <;> rfl
    · rename_i h
      rw [setStart?, if_neg]
      · cases readHyphens? ig ((c :: rest).length + 1) .empty (c :: rest) <;> rfl
      · rintro rfl
        exact h rest rfl

theorem leaves_setStart? : Leaves s (setStart? ig negated s) := by
  cases s with
  | nil => exact .none
  | cons c rest =>
    rw [setStart?]
    split
    · have h := skip_suffix ig rest
      cases hrest : skip ig rest with
      | nil => exact .none
      | cons d more => exact .some ((hrest ▸ h).trans (List.suffix_cons c rest))
    · exact (leaves_readHyphens? _ _ _).map fun members => (negated, members)

theorem leaves_setOpening? : Leaves s (setOpening? ig s) := by
  cases s with
  | nil => exact .none
  | cons c rest =>
    rw [setOpening?]
    split
    · exact (leaves_setStart?.trans (skip_suffix ig rest)).cons c
    · exact leaves_setStart?

theorem reads_setStart? :
    Reads AtOrPast (setStart? ig negated s) fun v _ => setStart? ig negated (s ++ ')' :: v) := by
  cases s with
  | nil => exact .of_none rfl fun v _ => leaves_setStart?
  | cons c rest =>
    simp only [List.cons_append, setStart?]
    split
    · refine .skip ?_ (fun v _ u y r hu h => ?_) (.inl rfl)
      · cases skip ig rest with
        | nil =>
          refine .of_none rfl fun v _ y r h => ?_
          cases h
          exact List.suffix_refl _
        | cons d more => exact .stops _ _ rfl fun _ _ => rfl
      · cases u with
        | nil => cases h
        | cons d more =>
          cases h
          exact atOrPast_of_suffix hu
    · have hlength (v : List Char) : (c :: (rest ++ ')' :: v)).length + 1 =
          (c :: rest).length + 1 + spare v 0 := length_closing (c :: rest) v
      simp only [hlength]
      exact (reads_readHyphens? (s := c :: rest) (Nat.lt_succ_self _)).unspared.map
        fun members => (negated, members)

theorem reads_setOpening? :
    Reads AtOrPast (setOpening? ig (skip ig s)) fun v _ =>
      setOpening? ig (skip ig (s ++ ')' :: v)) := by
  refine .skip ?_ (fun v _ u y r hu h => ?_) (.inl rfl)
  · cases skip ig s with
    | nil => exact .of_none rfl fun v _ => leaves_setOpening?
    | cons c rest =>
      simp only [List.cons_append, setOpening?]
      split
      · refine .skip reads_setStart? (fun v _ u y r hu h => ?_) (.inl rfl)
        exact atOrPast_of_suffix ((leaves_setStart? y r h).trans hu)
      · exact reads_setStart? (s := c :: rest)
  · exact atOrPast_of_suffix ((leaves_setOpening? y r h).trans hu)

/-! ## Named sets -/

/-- The set of a name up to a colon and a closing bracket. -/
def asciiName? (negated : Bool) (s : List Char) : Option (SetSyntax × List Char) :=
  match s.dropWhile fun c => c != ':' with
  | ':' :: ']' :: tail =>
    (asciiSets.lookup (String.ofList (s.takeWhile fun c => c != ':'))).map fun members =>
      (.ascii members negated, tail)
  | _ => none

/-- The sign of negation and the name of a set. -/
def asciiSigned? : List Char → Option (SetSyntax × List Char)
  | [] => none
  | c :: rest => if c = '^' then asciiName? true rest else asciiName? false (c :: rest)

theorem readAsciiSet?_cons (c : Char) (rest : List Char) :
    readAsciiSet? (c :: rest) = if c = ':' then asciiSigned? rest else none := by
  split
  · rename_i hc
    subst hc
    cases rest with
    | nil => rfl
    | cons d rest =>
      rw [asciiSigned?]
      split
      · rename_i hd
        subst hd
        rfl
      · rename_i hd
        unfold readAsciiSet?
        split
        · rename_i h
          cases h
          split
          rename_i negated t hsign
          split at hsign
          · rename_i h
            cases h
            exact absurd rfl hd
          · cases hsign
            rfl
        · rename_i h
          exact absurd rfl (h _)
  · rename_i hc
    unfold readAsciiSet?
    split
    · rename_i h
      cases h
      exact absurd rfl hc
    · rfl

/-- No set has a parenthesis in its name. -/
theorem lookup_asciiSets {name : List Char} (h : ')' ∈ name) :
    asciiSets.lookup (String.ofList name) = none := by
  have hnames : ∀ p ∈ asciiSets, ')' ∉ p.1.toList := by decide
  rw [List.lookup_eq_none_iff]
  intro p hp
  rw [bne_iff_ne]
  rintro hname
  refine hnames p hp ?_
  rwa [← hname, String.toList_ofList]

theorem leaves_asciiName? : Leaves s (asciiName? negated s) := by
  rw [asciiName?]
  split
  · rename_i tail h
    cases asciiSets.lookup _ with
    | none => exact .none
    | some members =>
      refine .some ?_
      have := List.dropWhile_suffix (l := s) fun c => c != ':'
      rw [h] at this
      exact ((List.suffix_cons _ _).trans (List.suffix_cons _ _)).trans this
  · exact .none

theorem asciiName?_closing (negated : Bool) (s v : List Char) :
    asciiName? negated (s ++ ')' :: v) =
      (asciiName? negated s).map fun p => (p.1, p.2 ++ ')' :: v) := by
  rw [asciiName?, asciiName?]
  obtain ⟨hdrop, htake⟩ | ⟨htake, hdrop⟩ :=
    takeWhile_dropWhile_closing (p := fun c => c != ':') (by decide) s v
  · rw [hdrop, lookup_asciiSets htake]
    split <;> rfl
  · rw [htake, hdrop]
    generalize s.dropWhile (fun c => c != ':') = t
    by_cases hname : ∃ tail, t = ':' :: ']' :: tail
    · obtain ⟨tail, rfl⟩ := hname
      dsimp only [List.cons_append]
      cases asciiSets.lookup _ <;> rfl
    · cases t with
      | nil => rfl
      | cons d rest =>
        split
        · rename_i tail h
          cases rest with
          | nil => cases h
          | cons e rest =>
            cases h
            exact absurd ⟨rest, rfl⟩ hname
        · split
          · rename_i tail h
            exact absurd ⟨tail, h⟩ hname
          · rfl

theorem leaves_readAsciiSet? : Leaves s.tail (readAsciiSet? s) := by
  cases s with
  | nil => exact .none
  | cons c rest =>
    rw [readAsciiSet?_cons]
    split
    · cases rest with
      | nil => exact .none
      | cons d rest =>
        rw [asciiSigned?]
        split
        · exact leaves_asciiName?.cons d
        · exact leaves_asciiName?
    · exact .none

theorem readAsciiSet?_closing (s v : List Char) :
    readAsciiSet? (s ++ ')' :: v) = (readAsciiSet? s).map fun p => (p.1, p.2 ++ ')' :: v) := by
  cases s with
  | nil => rfl
  | cons c rest =>
    simp only [List.cons_append, readAsciiSet?_cons]
    split
    · cases rest with
      | nil => exact asciiName?_closing false [] v
      | cons d rest =>
        simp only [List.cons_append, asciiSigned?]
        split
        · exact asciiName?_closing true rest v
        · exact asciiName?_closing false (d :: rest) v
    · rfl

/-! ## Sets -/

/-- The operation that a doubled sign stands for. -/
def operationOf? : Char → Option SetOperation
  | '&' => some .intersection
  | '-' => some .difference
  | '~' => some .symmetricDifference
  | _ => none

/-- The operation between sets at the start of a text, its sign being doubled. -/
def doubled? (c : Char) : List Char → Option (SetOperation × List Char)
  | [] => none
  | d :: tail => if d = c then (operationOf? c).map fun op => (op, tail) else none

/-- The rest of a set, when what is ignored has been left out. -/
def setFrom? (ig : Bool) (n : Nat) (pending : Option (SetOperation × SetSyntax))
    (members : SetSyntax) : List Char → Option (SetSyntax × List Char)
  | [] => none
  | c :: rest =>
    if c = ']' then some (closeOperation pending members, rest)
    else if c = '[' then
      match readAsciiSet? rest with
      | some (item, tail) => readSet? ig n pending (.union members item) tail
      | none =>
        (setOpening? ig (skip ig rest)).bind fun p =>
          (readSet? ig n none p.1.2 p.2).bind fun q =>
            readSet? ig n pending (.union members (.bracketed p.1.1 q.1)) q.2
    else
      match doubled? c rest with
      | some (op, tail) => readSet? ig n (some (op, closeOperation pending members)) .empty tail
      | none =>
        (readSetRange? ig (c :: rest)).bind fun p =>
          readSet? ig n pending (.union members p.1) p.2

theorem readSet?_succ (ig : Bool) (n : Nat) (pending : Option (SetOperation × SetSyntax))
    (members : SetSyntax) (s : List Char) :
    readSet? ig (n + 1) pending members s = setFrom? ig n pending members (skip ig s) := by
  rw [readSet?]
  split
  · rename_i h
    rw [h]
    rfl
  · rename_i h
    rw [h]
    rfl
  · rename_i tail h
    rw [h, setFrom?, if_neg (by decide), if_pos rfl, readSetStart?_eq]
    cases readAsciiSet? tail with
    | some found => rfl
    | none =>
      cases setOpening? ig (skip ig tail) with
      | none => rfl
      | some p =>
        dsimp only [Option.map_some, Option.bind_some]
        cases readSet? ig n none p.1.2 p.2 <;> rfl
  · rename_i h
    rw [h]
    rfl
  · rename_i h
    rw [h]
    rfl
  · rename_i h
    rw [h]
    rfl
  · rename_i hnil hclose hopen hand hminus htilde
    cases hs : skip ig s with
    | nil => exact absurd hs hnil
    | cons c rest =>
      have hdoubled : doubled? c rest = none := by
        cases rest with
        | nil => rfl
        | cons d tail =>
          rw [doubled?]
          split
          · rename_i hd
            subst hd
            unfold operationOf?
            split
            · exact absurd hs (hand tail)
            · exact absurd hs (hminus tail)
            · exact absurd hs (htilde tail)
            · rfl
          · rfl
      rw [setFrom?, if_neg, if_neg, hdoubled]
      · cases readSetRange? ig (c :: rest) <;> rfl
      · rintro rfl
        exact hopen rest hs
      · rintro rfl
        exact hclose rest hs

theorem readSet?_nil (ig : Bool) (n : Nat) (pending : Option (SetOperation × SetSyntax))
    (members : SetSyntax) : readSet? ig n pending members [] = none := by
  cases n with
  | zero => rfl
  | succ n =>
    rw [readSet?_succ]
    cases ig <;> rfl

theorem doubled?_suffix {c : Char} {op : SetOperation} (h : doubled? c s = some (op, t)) :
    t <:+ s.tail := by
  cases s with
  | nil => cases h
  | cons d tail =>
    rw [doubled?] at h
    split at h
    · obtain ⟨_, -, h⟩ := Option.map_eq_some_iff.1 h
      cases h
      exact List.suffix_refl _
    · cases h

theorem doubled?_closing (c : Char) (s v : List Char) :
    doubled? c (s ++ ')' :: v) = (doubled? c s).map fun p => (p.1, p.2 ++ ')' :: v) := by
  cases s with
  | nil =>
    by_cases hc : ')' = c
    · rw [← hc]
      rfl
    · exact if_neg hc
  | cons d tail =>
    rw [List.cons_append, doubled?, doubled?]
    split
    · cases operationOf? c <;> rfl
    · rfl

theorem leaves_setFrom? {pending : Option (SetOperation × SetSyntax)}
    (ih : ∀ pending members s, Leaves s (readSet? ig n pending members s)) :
    Leaves s.tail (setFrom? ig n pending members s) := by
  cases s with
  | nil => exact .none
  | cons c rest =>
    rw [setFrom?, List.tail_cons]
    split
    · exact .some (List.suffix_refl rest)
    · split
      · split
        · rename_i item tail hitem
          exact (ih _ _ tail).trans ((leaves_readAsciiSet? _ _ hitem).trans (List.tail_suffix rest))
        · refine (leaves_setOpening?.trans (skip_suffix ig rest)).bind fun x r _ => ?_
          exact (ih none _ r).bind fun inner u _ => ih _ _ u
      · split
        · rename_i op tail hop
          exact (ih _ _ tail).trans ((doubled?_suffix hop).trans (List.tail_suffix rest))
        · exact leaves_readSetRange?.bind fun item r _ => ih _ _ r

theorem leaves_readSet? (n : Nat) (pending : Option (SetOperation × SetSyntax))
    (members : SetSyntax) (s : List Char) : Leaves s (readSet? ig n pending members s) := by
  induction n generalizing pending members s with
  | zero => exact .none
  | succ n ih =>
    rw [readSet?_succ]
    exact ((leaves_setFrom? ih).trans (List.tail_suffix _)).trans (skip_suffix ig s)

/-- A set has a closing bracket at least. -/
theorem leaves_readSet?_tail (n : Nat) (pending : Option (SetOperation × SetSyntax))
    (members : SetSyntax) (s : List Char) : Leaves s.tail (readSet? ig n pending members s) := by
  cases n with
  | zero => exact .none
  | succ n =>
    rw [readSet?_succ]
    exact (leaves_setFrom? (leaves_readSet? n)).trans (tail_suffix_tail (skip_suffix ig s))

theorem skip_hyphen (ig : Bool) (t : List Char) : skip ig ('-' :: t) = '-' :: t := by
  cases ig <;> rfl

/-- A set goes on past a closing parenthesis that has been left over inside it. -/
theorem past_readSet? {pending : Option (SetOperation × SetSyntax)} (hu : PastOrHyphen ig v u) :
    Leaves v (readSet? ig n pending members u) := by
  obtain hu | ⟨t, rfl, ht⟩ := hu
  · exact (leaves_readSet?_tail n pending members u).trans (tail_suffix_tail hu)
  · cases n with
    | zero => exact .none
    | succ n =>
      rw [readSet?_succ, skip_hyphen, setFrom?, if_neg (by decide), if_neg (by decide)]
      -- The hyphen is doubled to a sign of difference, or it is a member or the start of a range.
      refine Leaves.trans ?_ ht
      split
      · rename_i op tail hop
        cases t with
        | nil => cases hop
        | cons d t =>
          rw [doubled?] at hop
          split at hop
          · rename_i hd
            obtain ⟨_, -, hop⟩ := Option.map_eq_some_iff.1 hop
            cases hop
            rw [hd, skip_hyphen]
            exact (leaves_readSet? n _ _ tail).cons _
          · cases hop
      · rw [readSetRange?_eq, readSetItem?_cons, if_neg (by decide), Option.bind_some]
        exact leaves_rangeFrom?.bind fun item r _ => leaves_readSet? n _ _ r

theorem reads_readSet? {pending : Option (SetOperation × SetSyntax)} (hn : s.length < n) :
    Reads Past (readSet? ig n pending members s) fun v j =>
      readSet? ig (n + spare v j) pending members (s ++ ')' :: v) := by
  induction n generalizing pending members s with
  | zero => omega
  | succ n ih =>
    simp only [Nat.add_right_comm _ 1, readSet?_succ]
    refine .skip ?_ (fun v j u y r hu h => ?_) (.inl rfl)
    · cases hs : skip ig s with
      | nil => exact .of_none rfl fun v j => leaves_setFrom? (leaves_readSet? _)
      | cons c rest =>
        have hrest : rest.length < n :=
          (length_of_skip_eq_cons hs).trans_le (Nat.le_of_lt_succ hn)
        have hshort {t : List Char} (ht : t <:+ rest) : t.length < n := ht.length_le.trans_lt hrest
        simp only [List.cons_append, setFrom?]
        split
        · exact .stops _ rest rfl fun _ _ => rfl
        · split
          · simp only [readAsciiSet?_closing]
            cases hitem : readAsciiSet? rest with
            | some found =>
              obtain ⟨item, tail⟩ := found
              have htail := leaves_readAsciiSet? item tail hitem
              exact ih (hshort (htail.trans (List.tail_suffix rest)))
            | none =>
              refine reads_setOpening?.bind (fun x r hr => ?_) (fun v j y u z r hu h => ?_)
                fun x => .inl ?_
              · -- The inner set first, then the outer one with what that leaves over.
                have hr := (leaves_setOpening?.trans (skip_suffix ig rest)) x r hr
                refine (ih (hshort hr)).bind (fun inner t ht => ?_) (fun v j y u z r hu h => ?_)
                  fun inner => .inl (readSet?_nil ig n _ _)
                · exact ih (hshort ((leaves_readSet? n _ _ r inner t ht).trans hr))
                · exact (leaves_readSet? _ _ _ u z r h).trans hu
              · refine (Leaves.bind (leaves_readSet?_tail _ none _ u) ?_ z r h).trans
                  (tail_suffix_tail hu)
                exact fun inner t _ => leaves_readSet? _ _ _ t
              · rw [readSet?_nil]
                rfl
          · simp only [doubled?_closing]
            cases hop : doubled? c rest with
            | some found =>
              obtain ⟨op, tail⟩ := found
              exact ih (hshort ((doubled?_suffix hop).trans (List.tail_suffix rest)))
            | none =>
              refine (reads_readSetRange? (s := c :: rest)).bind (fun item r hr => ?_)
                (fun v j y u z r hu h => past_readSet? hu z r h)
                fun item => .inl (readSet?_nil ig n _ _)
              exact ih (hshort (leaves_readSetRange? item r hr))
    · exact ((leaves_setFrom? (leaves_readSet? _) y r h).trans (List.tail_suffix u)).trans hu

theorem readBracketed?_eq (ig : Bool) (s : List Char) :
    readBracketed? ig s =
      (setOpening? ig (skip ig s)).bind fun p =>
        (readSet? ig (p.2.length + 1) none p.1.2 p.2).map fun q =>
          (.bracketed p.1.1 q.1, q.2) := by
  rw [readBracketed?, readSetStart?_eq]
  cases setOpening? ig (skip ig s) with
  | none => rfl
  | some p =>
    simp only [Option.map_some, Option.bind_eq_bind, Option.bind_some]
    cases readSet? ig (p.2.length + 1) none p.1.2 p.2 <;> rfl

theorem leaves_readBracketed? : Leaves s (readBracketed? ig s) := by
  rw [readBracketed?_eq]
  refine (leaves_setOpening?.trans (skip_suffix ig s)).bind fun x r _ => ?_
  exact (leaves_readSet? _ _ _ r).map fun inner => Node.bracketed x.1 inner

theorem reads_readBracketed? :
    Reads Past (readBracketed? ig s) fun v _ => readBracketed? ig (s ++ ')' :: v) := by
  simp only [readBracketed?_eq]
  refine reads_setOpening?.bind (fun x r _ => ?_) (fun v _ y u z r hu h => ?_) fun x => .inl ?_
  · simp only [length_closing]
    exact (reads_readSet? (Nat.lt_succ_self _)).unspared.map fun inner => Node.bracketed x.1 inner
  · exact (((leaves_readSet?_tail _ _ _ u).map fun inner => Node.bracketed y.1 inner) z r h).trans
      (tail_suffix_tail hu)
  · rw [readSet?_nil]
    rfl

end Assessment.Pattern
