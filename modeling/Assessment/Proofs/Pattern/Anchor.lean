import Assessment.Proofs.Pattern.Nesting
import Assessment.Proofs.Pattern.Span

/-!
# Patterns between marks for the two ends

A pattern is held to both ends of a text by what is written around its own text: a mark for the
start, the opening of a group, a closing parenthesis and a mark for the end. That is the pattern as
a group between the marks, unless the text takes part in what is around it: a comment at its end
takes in the parenthesis, and a parenthesis that nothing opens closes the group.

The text goes to a library of regular expressions. Here it is any engine that keeps to the
documentation: it takes the patterns of the documented syntax that stay within its limits, finds
what they mean, and refuses the rest. The limits are left open. The library has one on nesting and
one on an estimate of the memory that a compiled pattern takes, and nothing here depends on either.

* `Node.read?_anchored_of_some`, `Node.read?_anchored_of_none`: the structure between the marks.
* `compile?_anchored_of_closes`: between the marks a pattern is held to both ends.
* `Engine.Documented`: engines that keep to the documentation; `Engine.documented_builtin`: the
  engine that is built in is one.
* `Engine.Documented.finds`: held to both ends, a pattern is found in the texts that it spans.
* `Engine.Documented.refuses_invalid`: what is no pattern is none between the marks, unless its
  parentheses interlock with those around it.
-/

namespace Assessment.Pattern

open Text

variable {p : List Char} {node : Node}

/-! ## Whole patterns -/

/-- A text writes the pattern that is read of all of it. -/
theorem Node.read?_eq (text : List Char) :
    Node.read? text = (readParts? (text.length + 1) [] [] false [] text).bind fun q =>
      if q.2 = [] then some q.1.1 else none := by
  rw [read?, readParts?]
  cases readNode? (text.length + 1) [] [] ⟨false, [], text⟩ with
  | none => rfl
  | some q =>
    obtain ⟨node, ig, names, rest⟩ := q
    cases rest <;> rfl

/-! ## The pattern between the marks -/

/-- The structure of a pattern between marks for the two ends of a text. -/
def anchoredNode (node : Node) : Node :=
  .sequence [.assertion .startLine, .group noChange node, .assertion .endLine]

theorem readParts?_anchored (p : List Char) :
    readParts? ((anchored p).length + 1) [] [] false [] (anchored p) =
      (readParts? (p.length + 1 + spare ['$'] 2) [] [] false [] (p ++ [')', '$'])).bind fun q =>
        groupEnd? (p.length + 5) [.assertion .startLine] [] false noChange q.1 q.2 := by
  have hlength : (anchored p).length + 1 = p.length + 5 + 1 + 1 := by
    simp [anchored]
  rw [hlength, readParts?_succ]
  show readParts? (p.length + 5 + 1) [.assertion .startLine] [] false []
    ('(' :: '?' :: ':' :: (p ++ [')', '$'])) = _
  rw [readParts?_succ]
  show groupFrom? (p.length + 5) [.assertion .startLine] [] false [] (p ++ [')', '$'])
    (.group noChange none) = _
  rfl

/-- After a parenthesis that closes the group, the mark for the end is what is left. -/
theorem groupEnd?_anchored (n : Nat) (inner : Reading) :
    groupEnd? (n + 2) [.assertion .startLine] [] false noChange inner [')', '$'] =
      some ((anchoredNode inner.1, false, inner.2.2), []) := by
  rw [groupEnd?, if_pos rfl, readParts?_succ]
  rfl

theorem Node.read?_eq_some_iff {text : List Char} :
    Node.read? text = some node ↔
      ∃ ig names,
        readParts? (text.length + 1) [] [] false [] text = some ((node, ig, names), []) := by
  rw [read?_eq]
  constructor
  · intro h
    obtain ⟨⟨⟨node, ig, names⟩, rest⟩, hq, h⟩ := Option.bind_eq_some_iff.1 h
    split at h
    · rename_i hrest
      cases h
      exact ⟨ig, names, by rw [hq, show rest = [] from hrest]⟩
    · cases h
  · rintro ⟨ig, names, h⟩
    rw [h]
    rfl

/-- What the reader gives for a text that a closing parenthesis follows. -/
theorem readParts?_closed (p : List Char) :
    Reads Past (readParts? (p.length + 1) [] [] false [] p) fun v j =>
      readParts? (p.length + 1 + spare v j) [] [] false [] (p ++ ')' :: v) :=
  reads_readParts? (Nat.lt_succ_self _)

theorem Node.read?_closing (p v : List Char) :
    Node.read? (p ++ ')' :: v) =
      (readParts? (p.length + 1 + spare v 0) [] [] false [] (p ++ ')' :: v)).bind fun q =>
        if q.2 = [] then some q.1.1 else none := by
  rw [read?_eq, length_closing]

theorem Node.read?_anchored (p : List Char) :
    Node.read? (anchored p) =
      ((readParts? (p.length + 1 + spare ['$'] 2) [] [] false [] (p ++ [')', '$'])).bind fun q =>
        groupEnd? (p.length + 5) [.assertion .startLine] [] false noChange q.1 q.2).bind fun q =>
          if q.2 = [] then some q.1.1 else none := by
  rw [read?_eq, readParts?_anchored]

/-- A group that the parenthesis does not close stays open. -/
theorem Node.read?_anchored_of_past
    (h : Leaves ['$']
      (readParts? (p.length + 1 + spare ['$'] 2) [] [] false [] (p ++ [')', '$']))) :
    Node.read? (anchored p) = none := by
  rw [read?_anchored]
  cases hq : readParts? (p.length + 1 + spare ['$'] 2) [] [] false [] (p ++ [')', '$']) with
  | none => rfl
  | some q =>
    obtain ⟨inner, rest⟩ := q
    obtain rfl | hrest := List.suffix_cons_iff.1 (h inner rest hq)
    · rfl
    · rw [List.suffix_nil.1 hrest]
      rfl

/-- A pattern that a parenthesis after it is no part of stands between the marks as a group. One
that ends in a comment, which the parenthesis is part of, does not close the group. -/
theorem Node.read?_anchored_of_some (hp : Node.read? p = some node) :
    (Node.read? (p ++ [')']) = none ∧ Node.read? (anchored p) = some (anchoredNode node)) ∨
      (Node.read? (p ++ [')']) = some node ∧ Node.read? (anchored p) = none) := by
  obtain ⟨ig, names, hread⟩ := read?_eq_some_iff.1 hp
  rw [read?_closing]
  obtain ⟨x, r, hx, hfollowed⟩ | ⟨hlost, hend⟩ := readParts?_closed p
  · cases hread.symm.trans hx
    refine .inl ⟨?_, ?_⟩
    · rw [hfollowed [] 0]
      rfl
    · rw [read?_anchored, hfollowed ['$'] 2]
      show (groupEnd? _ _ _ _ _ (node, ig, names) [')', '$']).bind _ = _
      rw [groupEnd?_anchored]
      rfl
  · obtain hnone | ⟨x, hx, hfollowed⟩ := hend
    · cases hread.symm.trans hnone
    · cases hread.symm.trans hx
      refine .inr ⟨?_, read?_anchored_of_past (hlost ['$'] 2)⟩
      rw [hfollowed [] 0 List.not_mem_nil]
      rfl

/-! ## Parentheses that nothing opens -/

/-- A pattern that a closing parenthesis after it is no part of. -/
def Closed (p : List Char) : Prop := (Node.read? p).isSome ∧ Node.read? (p ++ [')']) = none

/-- What goes on with a closing parenthesis after such a pattern is none. -/
theorem Closed.read?_closing (h : Closed p) (v : List Char) :
    Node.read? (p ++ ')' :: v) = none := by
  obtain ⟨hread, hclosing⟩ := h
  obtain ⟨node, hnode⟩ := Option.isSome_iff_exists.1 hread
  obtain ⟨ig, names, hx⟩ := Node.read?_eq_some_iff.1 hnode
  obtain ⟨x, r, hr, hfollowed⟩ | ⟨-, hnone | ⟨x, hx', hfollowed⟩⟩ := readParts?_closed p
  · cases hx.symm.trans hr
    rw [Node.read?_closing, hfollowed v 0]
    rfl
  · cases hx.symm.trans hnone
  · rw [Node.read?_closing, hfollowed [] 0 List.not_mem_nil] at hclosing
    cases hclosing

/-- A pattern after the mark for the start of a text and the opening of a group. -/
def opened (p : List Char) : List Char := ['^', '(', '?', ':'] ++ p

theorem anchored_eq (p : List Char) : anchored p = opened p ++ [')', '$'] := rfl

/-- The parentheses of a pattern interlock with those around it: one of them closes the group, as
nothing else is open before it, and even so the text after the opening of the group is no pattern
that the group's own one stands outside of. -/
def Interlocks (p : List Char) : Prop :=
  (∃ q r, p = q ++ ')' :: r ∧ Closed q) ∧ ¬ Closed (opened p)

/-- A reader that stops at a parenthesis has read a pattern that it is no part of. -/
theorem exists_closed_of_readParts? {x : Reading} {t : List Char}
    (h : readParts? (p.length + 1) [] [] false [] p = some (x, ')' :: t)) :
    ∃ q r, p = q ++ ')' :: r ∧ Closed q := by
  obtain ⟨q, rfl⟩ := leaves_readParts? _ _ _ _ _ _ _ _ h
  rw [length_closing] at h
  obtain ⟨y, r, hy, hfollowed⟩ | ⟨hlost, -⟩ := readParts?_closed q
  · rw [hfollowed t 0] at h
    obtain ⟨rfl, hr⟩ := Prod.mk.inj (Option.some.inj h)
    obtain rfl : r = [] := List.append_left_eq_self.1 hr
    refine ⟨q, t, rfl, ?_, ?_⟩
    · rw [Node.read?_eq_some_iff.2 ⟨_, _, hy⟩]
      rfl
    · rw [Node.read?_closing, hfollowed [] 0]
      rfl
  · -- Past the parenthesis, less than `t` and the parenthesis is left over.
    have hle := (hlost t 0 x _ h).length_le
    rw [List.length_cons] at hle
    omega

/-- What is no pattern alone is none between the marks, unless its parentheses interlock with
them. -/
theorem Node.read?_anchored_of_none (hp : Node.read? p = none) (hlock : ¬ Interlocks p) :
    Node.read? (anchored p) = none := by
  by_cases hclosed : Closed (opened p)
  · rw [anchored_eq]
    exact hclosed.read?_closing ['$']
  · obtain ⟨x, r, hx, hfollowed⟩ | ⟨hlost, -⟩ := readParts?_closed p
    · rw [read?_anchored, hfollowed ['$'] 2]
      cases r with
      | nil =>
        rw [read?_eq_some_iff.2 ⟨_, _, hx⟩] at hp
        cases hp
      | cons c t =>
        have hc : c ≠ ')' := by
          rintro rfl
          exact hlock ⟨exists_closed_of_readParts? hx, hclosed⟩
        rw [Option.bind_some, List.cons_append, groupEnd?, if_neg hc]
        rfl
    · exact read?_anchored_of_past (hlost ['$'] 2)

/-! ## Compiling between the marks -/

variable {m : Matcher}

theorem Node.matcher?_anchoredNode (node : Node) :
    (anchoredNode node).matcher? = node.matcher?.map Matcher.whole := by
  have hcompile : (anchoredNode node).compile? .initial =
      (node.compile? .initial).map fun q => (q.1.whole, .initial) := by
    simp only [anchoredNode, compile?, compileSequence?]
    rw [show Switches.initial.apply noChange = .initial from rfl]
    cases node.compile? .initial <;> rfl
  rw [matcher?, matcher?, hcompile, Option.map_map, Option.map_map]
  rfl

/-- A pattern that a closing parenthesis after it is no part of, between the marks. -/
theorem compile?_anchored_of_closes (hm : compile? p = some m)
    (hcloses : Node.read? (p ++ [')']) = none) : compile? (anchored p) = some m.whole := by
  obtain ⟨node, hread, hm⟩ := Option.bind_eq_some_iff.1 hm
  obtain ⟨-, hanchored⟩ | ⟨hclosing, -⟩ := Node.read?_anchored_of_some hread
  · rw [compile?, hanchored, Option.bind_some, Node.matcher?_anchoredNode, hm, Option.map_some]
  · cases hcloses.symm.trans hclosing

/-- One that it is part of. -/
theorem compile?_anchored_of_not_closes (hm : compile? p = some m)
    (hcloses : Node.read? (p ++ [')']) ≠ none) : compile? (anchored p) = none := by
  obtain ⟨node, hread, -⟩ := Option.bind_eq_some_iff.1 hm
  obtain ⟨hclosing, -⟩ | ⟨-, hanchored⟩ := Node.read?_anchored_of_some hread
  · exact absurd hclosing hcloses
  · rw [compile?, hanchored, Option.bind_none]

/-- What is no pattern is none between the marks, unless its parentheses interlock with them. -/
theorem compile?_anchored_of_none (hm : compile? p = none) (hlock : ¬Interlocks p) :
    compile? (anchored p) = none := by
  cases hread : Node.read? p with
  | none => rw [compile?, Node.read?_anchored_of_none hread hlock, Option.bind_none]
  | some node =>
    rw [compile?, hread, Option.bind_some] at hm
    obtain ⟨-, hanchored⟩ | ⟨-, hanchored⟩ := Node.read?_anchored_of_some hread
    · rw [compile?, hanchored, Option.bind_some, Node.matcher?_anchoredNode, hm, Option.map_none]
    · rw [compile?, hanchored, Option.bind_none]

/-! ## Engines -/

/-- **An engine keeps to the documentation**: it takes the patterns of the syntax that stay within
its limits, and finds them in a text when some run of the text is what they mean; it refuses all
other texts. -/
structure Engine.Documented (engine : Engine) (within : List Char → Prop) : Prop where
  takes : ∀ {text m}, compile? text.toList = some m → within text.toList →
    ∃ found, engine.compile text = .ok found ∧
      ∀ t, found t = true ↔ ∃ i ≤ t.toList.length, ∃ j, m.Spans t.toList i j
  refuses : ∀ {text}, (∀ m, compile? text.toList = some m → ¬within text.toList) →
    ∃ reason, engine.compile text = .error reason

/-- The limit on nesting alone. -/
def withinNesting (p : List Char) : Prop :=
  ∀ node, Node.read? p = some node → node.depth ≤ nestLimit

/-- **The engine that is built in** keeps to the documentation. -/
theorem Engine.documented_builtin : Engine.builtin.Documented withinNesting where
  takes {text m} hm hwithin := by
    obtain ⟨node, hread, hm⟩ := Option.bind_eq_some_iff.1 hm
    have hdepth : ¬nestLimit < node.depth := not_lt.2 (hwithin node hread)
    refine ⟨fun t => m.findsIn t.toList, ?_, fun t => m.findsIn_iff t.toList⟩
    simp only [builtin, hread, if_neg hdepth, hm]
  refuses {text} h := by
    simp only [builtin]
    cases hread : Node.read? text.toList with
    | none => exact ⟨_, rfl⟩
    | some node =>
      by_cases hdepth : nestLimit < node.depth
      · exact ⟨_, if_pos hdepth⟩
      · cases hm : node.matcher? with
        | none => exact ⟨"bytes that are no text", by simp only [if_neg hdepth, hm]⟩
        | some m =>
          refine absurd (fun node' hread' => ?_) (h m (by rw [compile?, hread, Option.bind_some, hm]))
          cases hread.symm.trans hread'
          exact not_lt.1 hdepth

/-! ## Patterns held to both ends -/

section Engine

variable {engine : Engine} {within : List Char → Prop} {pattern : String}

/-- A pattern can be held to both ends of a text: a closing parenthesis after it is no part of it,
and with what is put around it it stays within the limits. -/
structure Enclosable (within : List Char → Prop) (p : List Char) : Prop where
  closes : Node.read? (p ++ [')']) = none
  within : within (anchored p)

theorem toList_anchoredText (pattern : String) :
    (anchoredText pattern).toList = anchored pattern.toList := String.toList_ofList

/-- An engine takes the patterns within its limits, and nothing else. -/
theorem Engine.Documented.takes_iff (hengine : engine.Documented within) :
    (∃ found, engine.compile pattern = .ok found) ↔
      (∃ m, compile? pattern.toList = some m) ∧ within pattern.toList := by
  constructor
  · rintro ⟨found, hfound⟩
    by_contra hnot
    obtain ⟨reason, hreason⟩ := hengine.refuses fun m hm hwithin => hnot ⟨⟨m, hm⟩, hwithin⟩
    cases hreason.symm.trans hfound
  · rintro ⟨⟨m, hm⟩, hwithin⟩
    obtain ⟨found, hfound, -⟩ := hengine.takes hm hwithin
    exact ⟨found, hfound⟩

/-- **A pattern that can be held to both ends** is found in the texts that it spans. -/
theorem Engine.Documented.finds (hengine : engine.Documented within)
    (hm : compile? pattern.toList = some m) (he : Enclosable within pattern.toList)
    (text : String) :
    ∃ found, engine.compile (anchoredText pattern) = .ok found ∧
      (found text = true ↔ m.Spans text.toList 0 text.toList.length) := by
  have hanchored := compile?_anchored_of_closes hm he.closes
  rw [← toList_anchoredText] at hanchored
  obtain ⟨found, hfound, hmeans⟩ :=
    hengine.takes hanchored (toList_anchoredText pattern ▸ he.within)
  exact ⟨found, hfound, (hmeans text).trans (m.spans_whole_iff text.toList)⟩

/-- **One that cannot** is refused. -/
theorem Engine.Documented.refuses_unenclosable (hengine : engine.Documented within)
    (hm : compile? pattern.toList = some m) (he : ¬Enclosable within pattern.toList) :
    ∃ reason, engine.compile (anchoredText pattern) = .error reason := by
  refine hengine.refuses fun m' hm' hwithin => ?_
  rw [toList_anchoredText] at hm' hwithin
  by_cases hcloses : Node.read? (pattern.toList ++ [')']) = none
  · exact he ⟨hcloses, hwithin⟩
  · cases (compile?_anchored_of_not_closes hm hcloses).symm.trans hm'

/-- **What is no pattern** is refused, unless its parentheses interlock with those around it. -/
theorem Engine.Documented.refuses_invalid (hengine : engine.Documented within)
    (hm : compile? pattern.toList = none) (hlock : ¬Interlocks pattern.toList) :
    ∃ reason, engine.compile (anchoredText pattern) = .error reason := by
  refine hengine.refuses fun m' hm' => ?_
  rw [toList_anchoredText, compile?_anchored_of_none hm hlock] at hm'
  cases hm'

end Engine

end Assessment.Pattern
