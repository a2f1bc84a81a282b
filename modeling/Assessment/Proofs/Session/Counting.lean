import Assessment.Proofs.Session.Finite

/-!
# Counts over the items of a test

The counts of a test add up. Some categories split the items that a filter passes into those with
one of the categories, which a filter includes, and those with none, which another excludes. The
items of a test may also be dealt to two tests in any way. Every count over the whole is the sum of
the counts over the two parts.

The code is `count` and `matches`, behind the five counting expressions of section B.4.4 of the
specification.

* `ItemFilter.passes_including`, `ItemFilter.passes_excluding`: categories with opposite polarity.
* `TestSession.Splits`: two filters split what a third selects.
* `TestSession.counts_add_up`: the counts of both kinds of parts, and those of the answered items.
-/

namespace Assessment

/-! ## Categories -/

/-- Whether an item has one of some categories. -/
def ItemSession.hasSome (categories : List String) (i : ItemSession) : Bool :=
  i.categories.any fun c => categories.contains c

theorem ItemSession.hasSome_append (c d : List String) (i : ItemSession) :
    i.hasSome (c ++ d) = (i.hasSome c || i.hasSome d) := by
  rw [Bool.eq_iff_iff]
  simp only [hasSome, List.any_eq_true, List.contains_iff_mem, List.mem_append, Bool.or_eq_true,
    and_or_left, exists_or]

namespace ItemFilter

variable {included : List String}

/-- Categories to include narrow a filter without any to the items with one of them. -/
theorem passes_including (h : included ≠ []) (within : Option String) (excluded : List String)
    (i : ItemSession) :
    passes ⟨within, included, excluded⟩ i =
      (passes ⟨within, [], excluded⟩ i && i.hasSome included) := by
  have hsome : included.isEmpty = false := List.isEmpty_eq_false_iff.2 h
  simp only [passes, hsome, List.isEmpty_nil, Bool.false_or, Bool.true_or, Bool.and_true]
  exact Bool.and_right_comm _ _ _

/-- More categories to exclude narrow a filter to the items with none of them. -/
theorem passes_excluding (included : List String) (within : Option String)
    (excluded : List String) (i : ItemSession) :
    passes ⟨within, [], excluded ++ included⟩ i =
      (passes ⟨within, [], excluded⟩ i && !i.hasSome included) := by
  have happend := i.hasSome_append excluded included
  simp only [ItemSession.hasSome] at happend
  simp only [passes, happend, Bool.not_or, Bool.and_assoc, ItemSession.hasSome]

end ItemFilter

namespace TestSession

/-! ## What filters select -/

/-- A filter that passes fewer items selects fewer. -/
theorem select_eq_filter {f g : ItemFilter} {p : ItemSession → Bool}
    (h : ∀ i, g.passes i = (f.passes i && p i)) (s : TestSession) :
    s.select g = (s.select f).filter p := by
  rw [select, select, List.filter_filter]
  refine List.filter_congr fun i _ => ?_
  rw [h, Bool.and_comm (p i), Bool.and_assoc]

theorem count_eq_countP (s : TestSession) (f : ItemFilter) (c : ItemCount) :
    s.count f c = (s.select f).countP (counts c) := List.countP_eq_length_filter.symm

/-- Two filters split what a third selects: no item is selected by both, the items that one of them
selects are those of the third, in the order of the test, and the counts add up. -/
structure Splits (s : TestSession) (whole part rest : ItemFilter) : Prop where
  disjoint : (s.select part).Disjoint (s.select rest)
  select_eq : s.select whole = s.items.filter fun i => i ∈ s.select part ∨ i ∈ s.select rest
  count_eq : ∀ c, s.count whole c = s.count part c + s.count rest c

/-- What holds of an item or does not hold splits what a filter selects. -/
theorem Splits.of_passes {whole part rest : ItemFilter} {p : ItemSession → Bool}
    (hpart : ∀ i, part.passes i = (whole.passes i && p i))
    (hrest : ∀ i, rest.passes i = (whole.passes i && !p i)) (s : TestSession) :
    s.Splits whole part rest where
  disjoint := by
    intro i hi hi'
    rw [select_eq_filter hpart, List.mem_filter] at hi
    rw [select_eq_filter hrest, List.mem_filter] at hi'
    simp [hi.2] at hi'
  select_eq := by
    refine List.filter_congr fun i hi => ?_
    rw [Bool.eq_iff_iff, decide_eq_true_iff, mem_select, mem_select, hpart, hrest]
    cases p i <;> simp [hi]
  count_eq c := by
    rw [count_eq_countP, count_eq_countP, count_eq_countP, select_eq_filter hpart,
      select_eq_filter hrest]
    exact List.countP_eq_countP_filter_add _ _ p

/-! ## Sums -/

/-- The items of a test may be dealt to two tests. -/
theorem count_of_perm {s a b : TestSession} (h : s.items.Perm (a.items ++ b.items))
    (f : ItemFilter) (c : ItemCount) : s.count f c = a.count f c + b.count f c := by
  have hselect : (s.select f).Perm (a.select f ++ b.select f) := by
    rw [select, select, select, ← List.filter_append]
    exact h.filter _
  rw [count_eq_countP, count_eq_countP, count_eq_countP, hselect.countP_eq, List.countP_append]

/-- An item that was answered is incorrect or correct. -/
theorem count_responded (s : TestSession) (f : ItemFilter) :
    s.count f .responded =
      s.count f .incorrect + (s.select f).countP fun i => i.responded && i.isCorrect := by
  rw [count_eq_countP, count_eq_countP,
    List.countP_eq_countP_filter_add _ _ fun i => !i.isCorrect, List.countP_filter,
    List.countP_filter]
  simp only [Bool.not_not]
  rfl

/-- **Counts add up.** Categories to include split what a filter without such categories selects:
into what it selects with them, and what it selects when they are excluded too. The counts over the
items of a test are the sums of those over two tests to which the items are dealt. The items that
were answered are those that are counted as incorrect and those that were answered and are
correct. -/
theorem counts_add_up (s : TestSession) :
    (∀ (within : Option String) (included excluded : List String), included ≠ [] →
      s.Splits ⟨within, [], excluded⟩ ⟨within, included, excluded⟩
        ⟨within, [], excluded ++ included⟩) ∧
    (∀ a b : TestSession, s.items.Perm (a.items ++ b.items) →
      ∀ f c, s.count f c = a.count f c + b.count f c) ∧
    ∀ f, s.count f .responded =
      s.count f .incorrect + (s.select f).countP fun i => i.responded && i.isCorrect :=
  ⟨fun within included excluded h =>
    .of_passes (ItemFilter.passes_including h within excluded)
      (ItemFilter.passes_excluding included within excluded) s,
    fun _ _ h => count_of_perm h, count_responded s⟩

/-- Four items, one of two categories and one without any. -/
def fourItems : TestSession :=
  ⟨[{ ItemSession.blank "Q1" with categories := ["algebra", "easy"] },
    { ItemSession.blank "Q2" with categories := ["algebra"], responded := false },
    { ItemSession.blank "Q3" with categories := ["easy", "draft"] },
    ItemSession.blank "Q4"]⟩

/-- Of the three items that are no drafts one is easy; the first and the third item make up one
test, the others another. -/
theorem fourItems_counts :
    (fourItems.Splits ⟨none, [], ["draft"]⟩ ⟨none, ["easy"], ["draft"]⟩
        ⟨none, [], ["draft", "easy"]⟩ ∧
      fourItems.count ⟨none, [], ["draft"]⟩ .selected = 3 ∧
      fourItems.count ⟨none, ["easy"], ["draft"]⟩ .selected = 1) ∧
    fourItems.count ⟨none, ["easy"], []⟩ .incorrect =
      count ⟨[fourItems.items[0], fourItems.items[2]]⟩ ⟨none, ["easy"], []⟩ .incorrect +
        count ⟨[fourItems.items[1], fourItems.items[3]]⟩ ⟨none, ["easy"], []⟩ .incorrect := by
  obtain ⟨hcategories, hdeal, -⟩ := counts_add_up fourItems
  refine ⟨⟨hcategories none ["easy"] ["draft"] (by decide), by decide, by decide⟩,
    hdeal ⟨[fourItems.items[0], fourItems.items[2]]⟩ ⟨[fourItems.items[1], fourItems.items[3]]⟩ ?_
      _ _⟩
  decide

end TestSession

end Assessment
