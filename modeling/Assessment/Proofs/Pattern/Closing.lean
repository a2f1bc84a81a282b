import Assessment.Pattern.Reader
import Mathlib.Data.List.Basic
import Mathlib.Data.List.Infix

/-!
# A closing parenthesis after a text

How the reader of patterns takes a text that a closing parenthesis follows, compared with the text
alone. It stops at the parenthesis with the same result, or reads past it. Past it, it never ends at
the parenthesis; and then the text alone is none, or its end is in a comment that goes on.

The text of a pattern is pasted before a closing parenthesis (`eval_expr`, the arm patternMatch), so
what the parenthesis does to the reading decides whether pasting is the same as grouping.

* `Reads`: stopping at the parenthesis or reading past it, as a relation between two readings.
* `Leaves`: what is left over is an end of the text.
-/

namespace Assessment.Pattern

open Text

variable {α β : Type}

/-! ## The rest of a text -/

/-- What a reader leaves over of a text. -/
def Leaves (s : List Char) (a : Option (α × List Char)) : Prop := ∀ x r, a = some (x, r) → r <:+ s

namespace Leaves

variable {s t : List Char} {a : Option (α × List Char)}

theorem none : Leaves s (none : Option (α × List Char)) := by
  rintro _ _ ⟨⟩

theorem some {x : α} {r : List Char} (h : r <:+ s) : Leaves s (some (x, r)) := by
  rintro _ _ ⟨⟩
  exact h

theorem trans (h : Leaves t a) (hst : t <:+ s) : Leaves s a := fun x r ha => (h x r ha).trans hst

theorem cons (h : Leaves t a) (c : Char) : Leaves (c :: t) a := h.trans (List.suffix_cons c t)

theorem bind (h : Leaves t a) {k : α × List Char → Option (β × List Char)}
    (hk : ∀ x r, a = .some (x, r) → Leaves r (k (x, r))) : Leaves t (a.bind k) := by
  intro y r hy
  obtain ⟨⟨x, u⟩, ha, hy⟩ := Option.bind_eq_some_iff.1 hy
  exact (hk x u ha y r hy).trans (h x u ha)

theorem filterMap (h : Leaves t a) (f : α → Option β) :
    Leaves t (a.bind fun p => (f p.1).map fun y => (y, p.2)) :=
  h.bind fun x r _ => by
    dsimp only
    cases f x with
    | none => exact .none
    | some y => exact .some (List.suffix_refl r)

theorem map (h : Leaves t a) (f : α → β) : Leaves t (a.map fun p => (f p.1, p.2)) := by
  intro y r hy
  obtain ⟨⟨x, u⟩, ha, hy⟩ := Option.map_eq_some_iff.1 hy
  cases hy
  exact h x u ha

end Leaves

theorem tail_suffix_tail {s t : List Char} (h : t <:+ s) : t.tail <:+ s.tail := by
  cases s with
  | nil => exact (List.suffix_nil.1 h) ▸ List.suffix_refl _
  | cons c s =>
    obtain rfl | h := List.suffix_cons_iff.1 h
    · exact List.suffix_refl _
    · exact (List.tail_suffix t).trans h

/-! ## The parenthesis -/

/-- What is left over when a closing parenthesis before `v` has been read. -/
def Past (v r : List Char) : Prop := r <:+ v

/-- A closing parenthesis has been read or stands first. -/
def AtOrPast (v r : List Char) : Prop := r <:+ ')' :: v

theorem atOrPast_of_suffix {v r : List Char} (h : r <:+ v) : AtOrPast v r :=
  h.trans (List.suffix_cons _ v)

/-- Steps to spare, for a text that a parenthesis and `v` follow. -/
def spare (v : List Char) (j : Nat) : Nat := v.length + 1 + j

/-- A reader that takes its steps from the length of its text has the spare ones. -/
theorem length_closing (s v : List Char) :
    (s ++ ')' :: v).length + 1 = s.length + 1 + spare v 0 := by
  rw [List.length_append, List.length_cons, spare]
  omega

/-- What a reader gives for a text alone, and for the text with a closing parenthesis and a text `v`
after it; the number counts more steps to spare. -/
inductive Reads (lost : List Char → List Char → Prop) (alone : Option (α × List Char))
    (followed : List Char → Nat → Option (α × List Char)) : Prop
  /-- It stops before the parenthesis. -/
  | stops (x : α) (r : List Char) (halone : alone = some (x, r))
    (hfollowed : ∀ v j, followed v j = some (x, r ++ ')' :: v))
  /-- It reads the parenthesis, which at the end of the text is part of a comment if anything. -/
  | passes (hlost : ∀ v j y r, followed v j = some (y, r) → lost v r)
    (hend : alone = none ∨ ∃ x, alone = some (x, []) ∧
      ∀ v j, '\n' ∉ v → followed v j = some (x, []))

namespace Reads

variable {lost lost' : List Char → List Char → Prop} {alone : Option (α × List Char)}
  {followed : List Char → Nat → Option (α × List Char)}

theorem of_none (halone : alone = none)
    (hlost : ∀ v j y r, followed v j = some (y, r) → lost v r) : Reads lost alone followed :=
  passes hlost (.inl halone)

theorem nothing (halone : alone = none) (hfollowed : ∀ v j, followed v j = none) :
    Reads lost alone followed :=
  of_none halone fun v j y r h => by
    rw [hfollowed] at h
    cases h

theorem mono (h : Reads lost alone followed) (hl : ∀ v r, lost v r → lost' v r) :
    Reads lost' alone followed := by
  obtain ⟨x, r, ha, hf⟩ | ⟨hp, he⟩ := h
  · exact stops x r ha hf
  · exact passes (fun v j y r h => hl v r (hp v j y r h)) he

/-- One reader after another one. -/
theorem bind (h : Reads lost alone followed) {k : α × List Char → Option (β × List Char)}
    {l : List Char → Nat → α × List Char → Option (β × List Char)}
    (hstop : ∀ x r, alone = some (x, r) →
      Reads lost' (k (x, r)) fun v j => l v j (x, r ++ ')' :: v))
    (hpass : ∀ v j y u z r, lost v u → l v j (y, u) = some (z, r) → lost' v r)
    (hend : ∀ x, k (x, []) = none ∨ ∃ z, k (x, []) = some (z, []) ∧
      ∀ v j, l v j (x, []) = some (z, [])) :
    Reads lost' (alone.bind k) fun v j => (followed v j).bind (l v j) := by
  obtain ⟨x, r, ha, hf⟩ | ⟨hp, he⟩ := h
  · have hfollowed : (fun v j => (followed v j).bind (l v j)) =
        fun v j => l v j (x, r ++ ')' :: v) := by
      funext v j
      rw [hf]
      rfl
    rw [hfollowed, ha]
    exact hstop x r ha
  · refine passes (fun v j z r h => ?_) ?_
    · obtain ⟨⟨y, u⟩, hy, h⟩ := Option.bind_eq_some_iff.1 h
      exact hpass v j y u z r (hp v j y u hy) h
    · obtain ha | ⟨x, ha, hf⟩ := he
      · exact .inl (by rw [ha]; rfl)
      · rw [ha]
        refine (hend x).imp id ?_
        rintro ⟨z, hz, hl⟩
        exact ⟨z, hz, fun v j hv => by rw [hf v j hv]; exact hl v j⟩

/-- What is read, turned into something else where that can be done. -/
theorem filterMap (h : Reads lost alone followed) (f : α → Option β) :
    Reads lost (alone.bind fun p => (f p.1).map fun y => (y, p.2))
      fun v j => (followed v j).bind fun p => (f p.1).map fun y => (y, p.2) := by
  refine h.bind (fun x r _ => ?_) (fun v j y u z r hl h => ?_) fun x => ?_
  · dsimp only
    cases f x with
    | none => exact nothing rfl fun _ _ => rfl
    | some y => exact stops y r rfl fun _ _ => rfl
  · obtain ⟨_, -, h⟩ := Option.map_eq_some_iff.1 h
    cases h
    exact hl
  · dsimp only
    cases f x with
    | none => exact .inl rfl
    | some y => exact .inr ⟨y, rfl, fun _ _ => rfl⟩

/-- The steps to spare may be left out. -/
theorem unspared (h : Reads lost alone followed) :
    Reads lost alone fun v _ => followed v 0 := by
  obtain ⟨x, r, ha, hf⟩ | ⟨hp, he⟩ := h
  · exact stops x r ha fun v _ => hf v 0
  · refine passes (fun v _ => hp v 0) (he.imp id ?_)
    rintro ⟨x, hx, hf⟩
    exact ⟨x, hx, fun v _ => hf v 0⟩

theorem map (h : Reads lost alone followed) (f : α → β) :
    Reads lost (alone.map fun p => (f p.1, p.2)) fun v j =>
      (followed v j).map fun p => (f p.1, p.2) := by
  simpa [Option.map_eq_bind, Function.comp_def] using h.filterMap fun x => some (f x)

end Reads

/-! ## Names -/

theorem takeWhile_closing {p : Char → Bool} (hp : p ')' = false) (l v : List Char) :
    (l ++ ')' :: v).takeWhile p = l.takeWhile p := by
  induction l with
  | nil => simp [hp]
  | cons c l ih => simp only [List.cons_append, List.takeWhile_cons, ih]

theorem dropWhile_closing {p : Char → Bool} (hp : p ')' = false) (l v : List Char) :
    (l ++ ')' :: v).dropWhile p = l.dropWhile p ++ ')' :: v := by
  induction l with
  | nil => simp [hp]
  | cons c l ih =>
    simp only [List.cons_append, List.dropWhile_cons, ih]
    split <;> rfl

/-- A name in which a parenthesis may stand ends before the closing one, or it holds that. -/
theorem takeWhile_dropWhile_closing {p : Char → Bool} (hp : p ')' = true) (l v : List Char) :
    (l.dropWhile p = [] ∧ ')' ∈ (l ++ ')' :: v).takeWhile p) ∨
      ((l ++ ')' :: v).takeWhile p = l.takeWhile p ∧
        (l ++ ')' :: v).dropWhile p = l.dropWhile p ++ ')' :: v) := by
  induction l with
  | nil => exact .inl ⟨rfl, by simp [hp]⟩
  | cons c l ih =>
    simp only [List.cons_append, List.takeWhile_cons, List.dropWhile_cons]
    split
    · refine ih.imp (fun h => ⟨h.1, List.mem_cons_of_mem c h.2⟩) fun h => ?_
      rw [h.1]
      exact ⟨rfl, h.2⟩
    · exact .inr ⟨rfl, rfl⟩

/-! ## Ignored text -/

theorem dropIgnored_suffix (b : Bool) (s : List Char) : dropIgnored b s <:+ s := by
  induction s generalizing b with
  | nil => exact List.suffix_refl _
  | cons c rest ih =>
    rw [dropIgnored]
    split
    · exact (ih _).trans (List.suffix_cons c rest)
    · split
      · exact (ih _).trans (List.suffix_cons c rest)
      · split
        · exact (ih _).trans (List.suffix_cons c rest)
        · exact List.suffix_refl _

theorem skip_suffix (ig : Bool) (s : List Char) : skip ig s <:+ s := by
  cases ig
  · exact List.suffix_refl _
  · exact dropIgnored_suffix false s

theorem length_of_skip_eq_cons {ig : Bool} {s t : List Char} {c : Char} (h : skip ig s = c :: t) :
    t.length < s.length := by
  have := (skip_suffix ig s).length_le
  rw [h] at this
  exact this

/-- A comment goes on to the end of its line. -/
theorem dropIgnored_comment {s : List Char} (h : '\n' ∉ s) : dropIgnored true s = [] := by
  induction s with
  | nil => rfl
  | cons c rest ih =>
    rw [List.mem_cons, not_or] at h
    rw [dropIgnored, if_pos rfl, bne_iff_ne.2 (Ne.symm h.1)]
    exact ih h.2

/-- The end of a text is in a comment that goes on past a closing parenthesis. -/
def EndsInComment (f : List Char → List Char) (s : List Char) : Prop :=
  f s = [] ∧ ∀ v, f (s ++ ')' :: v) <:+ v ∧ ('\n' ∉ v → f (s ++ ')' :: v) = [])

theorem dropIgnored_closing (b : Bool) (s : List Char) :
    (∀ v, dropIgnored b (s ++ ')' :: v) = dropIgnored b s ++ ')' :: v) ∨
      EndsInComment (dropIgnored b) s := by
  induction s generalizing b with
  | nil =>
    cases b with
    | false => exact .inl fun v => rfl
    | true => exact .inr ⟨rfl, fun v => ⟨dropIgnored_suffix true v, dropIgnored_comment⟩⟩
  | cons c rest ih =>
    have hstep (t : List Char) : dropIgnored b (c :: t) =
        if b then dropIgnored (c != '\n') t
        else if isBlank c then dropIgnored false t
        else if c == '#' then dropIgnored true t
        else c :: t := by rw [dropIgnored]
    simp only [EndsInComment, List.cons_append, hstep]
    split
    · exact ih _
    · split
      · exact ih _
      · split
        · exact ih _
        · exact .inl fun v => rfl

theorem skip_closing (ig : Bool) (s : List Char) :
    (∀ v, skip ig (s ++ ')' :: v) = skip ig s ++ ')' :: v) ∨ EndsInComment (skip ig) s := by
  cases ig
  · exact .inl fun v => rfl
  · exact dropIgnored_closing false s

/-- A reader that goes on after what is ignored. -/
theorem Reads.skip {lost : List Char → List Char → Prop} {ig : Bool} {s : List Char}
    {k : List Char → Option (α × List Char)}
    {l : List Char → Nat → List Char → Option (α × List Char)}
    (h : Reads lost (k (skip ig s)) fun v j => l v j (skip ig s ++ ')' :: v))
    (hpass : ∀ v j u y r, u <:+ v → l v j u = some (y, r) → lost v r)
    (hend : k [] = none ∨ ∃ x, k [] = some (x, []) ∧ ∀ v j, l v j [] = some (x, [])) :
    Reads lost (k (skip ig s)) fun v j => l v j (skip ig (s ++ ')' :: v)) := by
  obtain hskip | ⟨hnil, hcomment⟩ := skip_closing ig s
  · simpa only [hskip] using h
  · rw [hnil]
    refine .passes (fun v j y r h => hpass v j _ y r (hcomment v).1 h) (hend.imp id ?_)
    rintro ⟨x, hx, hl⟩
    exact ⟨x, hx, fun v j hv => by rw [(hcomment v).2 hv]; exact hl v j⟩

theorem Leaves.trim {s : List Char} {a : Option (α × List Char)} (h : Leaves s a) (ig : Bool) :
    Leaves s (a.map fun p => (p.1, Pattern.skip ig p.2)) := by
  intro x r hx
  obtain ⟨⟨y, u⟩, ha, hx⟩ := Option.map_eq_some_iff.1 hx
  cases hx
  exact (skip_suffix ig u).trans (h y u ha)

/-- What a reader leaves over, without what is ignored at its start. -/
theorem Reads.trim {alone : Option (α × List Char)}
    {followed : List Char → Nat → Option (α × List Char)} (h : Reads Past alone followed)
    (ig : Bool) :
    Reads Past (alone.map fun p => (p.1, Pattern.skip ig p.2)) fun v j =>
      (followed v j).map fun p => (p.1, Pattern.skip ig p.2) := by
  simp only [Option.map_eq_bind]
  refine h.bind (fun x r _ => ?_) (fun v j y u z r hu h => ?_) fun x => ?_
  · refine .skip (k := fun t => some (x, t)) (l := fun _ _ t => some (x, t))
      (.stops x _ rfl fun _ _ => rfl) ?_ ?_
    · rintro v j u _ _ hu ⟨⟩
      exact hu
    · exact .inr ⟨x, rfl, fun _ _ => rfl⟩
  · cases h
    exact (skip_suffix ig u).trans hu
  · cases ig <;> exact .inr ⟨x, rfl, fun _ _ => rfl⟩

end Assessment.Pattern
