import Assessment.Proofs.Mapping.Distinct

/-!
# What a mapping adds up

A mapping and an area mapping score a response in one way, and a scale is what they have in common:
entries that accept scalars, a number for each of them and one for scalars without entry. What adds
up for a response is the number of each entry that is the first to accept one of its elements, once,
and the default for each of its distinct elements that no entry accepts.

The code is the loop that `map_value` and `map_points` share: a flag for each entry says whether it
was used. The flags make the loop look as if order mattered; the tally says what comes of it without
a loop.

* `Scale.tally`: what adds up for a response, as a multiset.
* `Scale.exists_addendsFrom`: what the scan over the elements adds, given the entries used already.
* `Scale.tallyFrom_distinctFrom`: for the distinct elements that is what adds up for all elements.
* `Scale.tally_rearranged`: other places and copies of elements make no difference.
-/

namespace Assessment

open Mapping

/-- Numbers for scalars: entries that accept some of them, and what an entry and a scalar without
entry add. An entry does not tell scalars apart that are the same. -/
structure Scale (α : Type) where
  entries : List α
  accepts : α → Scalar → Bool
  accepts_congr : ∀ (e : α) (x y : Scalar), x.same y = true → accepts e x = accepts e y
  number : α → Float
  default : Float
  lower : Option Float
  upper : Option Float

namespace Scale

variable {α : Type} (S : Scale α) {x y : Scalar} {items items' copies : List Scalar}
  {k : Fin S.entries.length}

/-! ## What adds up -/

/-- An entry is the first to accept a scalar. -/
def IsFirst (x : Scalar) (k : Fin S.entries.length) : Prop :=
  S.accepts S.entries[k] x = true ∧ ∀ j < k, S.accepts S.entries[j] x = false

instance (x : Scalar) (k : Fin S.entries.length) : Decidable (S.IsFirst x k) :=
  inferInstanceAs (Decidable (_ ∧ _))

/-- No entry accepts a scalar. -/
def Misses (x : Scalar) : Prop := ∀ e ∈ S.entries, S.accepts e x = false

instance (x : Scalar) : Decidable (S.Misses x) :=
  inferInstanceAs (Decidable (∀ e ∈ S.entries, S.accepts e x = false))

/-- The entries that are the first to accept an element. -/
def hit (items : List Scalar) : Finset (Fin S.entries.length) :=
  Finset.univ.filter fun k => ∃ x ∈ items, S.IsFirst x k

/-- The places of the elements that no entry accepts and that are not the same as an earlier one. -/
def missed (items : List Scalar) : Finset (Fin items.length) :=
  Finset.univ.filter fun i => S.Misses (items.get i) ∧ IsNew items i

/-- What adds up for a list of elements. -/
def tally (items : List Scalar) : Multiset Float :=
  (S.hit items).val.map (fun k => S.number S.entries[k]) +
    Multiset.replicate (S.missed items).card S.default

/-- The first entry that accepts a scalar. -/
def first? (x : Scalar) : Option (Fin S.entries.length) :=
  S.entries.findFinIdx? fun e => S.accepts e x

variable {S}

theorem isFirst_iff : S.IsFirst x k ↔ S.first? x = some k := by
  rw [first?, List.findFinIdx?_eq_some_iff]
  simp only [Bool.not_eq_true]
  rfl

theorem misses_iff : S.Misses x ↔ S.first? x = none := by
  rw [first?, List.findFinIdx?_eq_none_iff]
  simp only [Bool.not_eq_true]
  rfl

/-- Scalars that are the same have the same first entry. -/
theorem first?_congr (h : x.same y = true) : S.first? x = S.first? y := by
  rw [first?, first?, funext fun e => S.accepts_congr e x y h]

theorem mem_hit : k ∈ S.hit items ↔ ∃ x ∈ items, S.IsFirst x k := by
  rw [hit, Finset.mem_filter, and_iff_right (Finset.mem_univ k)]

theorem hit_nil : S.hit [] = ∅ := by
  ext k
  simp [mem_hit]

/-- A further element hits its first entry. -/
theorem mem_hit_cons : k ∈ S.hit (x :: items) ↔ S.first? x = some k ∨ k ∈ S.hit items := by
  rw [mem_hit, mem_hit, List.exists_mem_cons_iff, isFirst_iff]

theorem hit_cons_of_none (h : S.first? x = none) : S.hit (x :: items) = S.hit items := by
  ext k
  rw [mem_hit_cons, h, or_iff_right nofun]

theorem hit_cons_of_some (h : S.first? x = some k) :
    S.hit (x :: items) = insert k (S.hit items) := by
  ext j
  rw [mem_hit_cons, h, Finset.mem_insert, Option.some.injEq, eq_comm]

/-! ## The scan -/

/-- A rule finds the first entry of a scalar and its number. -/
def Finds (S : Scale α) (find : Scalar → Except Fault (Option (Nat × Float))) (x : Scalar) :
    Prop :=
  find x = .ok ((S.first? x).map fun k => (k.val, S.number S.entries[k]))

/-- How many elements of a list no entry accepts. -/
def missCount (S : Scale α) (items : List Scalar) : Nat :=
  items.countP fun x => decide (S.Misses x)

theorem missCount_cons_of_none (h : S.first? x = none) :
    S.missCount (x :: items) = S.missCount items + 1 :=
  List.countP_cons_of_pos (decide_eq_true (misses_iff.2 h))

theorem missCount_cons_of_some (h : S.first? x = some k) :
    S.missCount (x :: items) = S.missCount items := by
  refine List.countP_cons_of_neg ?_
  rw [decide_eq_true_eq, misses_iff, h]
  exact nofun

/-- What is still to add for a list of elements when some entries have been used. -/
def tallyFrom (S : Scale α) (used : List Nat) (items : List Scalar) : Multiset Float :=
  ((S.hit items).filter fun k => k.val ∉ used).val.map (fun k => S.number S.entries[k]) +
    Multiset.replicate (S.missCount items) S.default

theorem tallyFrom_nil (used : List Nat) : S.tallyFrom used [] = 0 := by
  rw [tallyFrom, hit_nil, Finset.filter_empty]
  rfl

/-- An element without entry adds the default. -/
theorem tallyFrom_of_none (h : S.first? x = none) (used : List Nat) :
    S.tallyFrom used (x :: items) = S.default ::ₘ S.tallyFrom used items := by
  rw [tallyFrom, hit_cons_of_none h, missCount_cons_of_none h, Multiset.replicate_succ,
    Multiset.add_cons, tallyFrom]

/-- An element whose entry has been used adds nothing. -/
theorem tallyFrom_of_mem (h : S.first? x = some k) {used : List Nat} (hk : k.val ∈ used) :
    S.tallyFrom used (x :: items) = S.tallyFrom used items := by
  rw [tallyFrom, hit_cons_of_some h, missCount_cons_of_some h, Finset.filter_insert,
    if_neg (not_not_intro hk), tallyFrom]

/-- An element whose entry has not been used adds the number of the entry, which is used then. -/
theorem tallyFrom_of_notMem (h : S.first? x = some k) {used : List Nat} (hk : k.val ∉ used) :
    S.tallyFrom used (x :: items) =
      S.number S.entries[k] ::ₘ S.tallyFrom (k.val :: used) items := by
  have hrest : (insert k (S.hit items)).filter (fun j => j.val ∉ used) =
      insert k ((S.hit items).filter fun j => j.val ∉ k.val :: used) := by
    ext j
    simp only [Finset.mem_filter, Finset.mem_insert, List.mem_cons, not_or, Fin.val_inj]
    by_cases hj : j = k
    · simp only [hj, hk, true_or, not_false_iff, and_self]
    · simp only [hj, false_or, not_false_iff, true_and]
  have hnew : k ∉ (S.hit items).filter fun j => j.val ∉ k.val :: used := fun hmem =>
    (Finset.mem_filter.1 hmem).2 List.mem_cons_self
  rw [tallyFrom, hit_cons_of_some h, missCount_cons_of_some h, hrest,
    Finset.insert_val_of_notMem hnew, Multiset.map_cons, Multiset.cons_add, tallyFrom]

/-- **The scan** over elements adds what is still to add. -/
theorem exists_addendsFrom {find : Scalar → Except Fault (Option (Nat × Float))}
    (h : ∀ x ∈ items, S.Finds find x) (used : List Nat) :
    ∃ xs : List Float, addendsFrom find S.default used items = .ok xs ∧
      (xs : Multiset Float) = S.tallyFrom used items := by
  induction items generalizing used with
  | nil => exact ⟨[], rfl, (tallyFrom_nil used).symm⟩
  | cons x items ih =>
    obtain ⟨hx, hitems⟩ := List.forall_mem_cons.1 h
    rw [Finds] at hx
    cases hfirst : S.first? x with
    | none =>
      obtain ⟨xs, hxs, htally⟩ := ih hitems used
      refine ⟨S.default :: xs, ?_, ?_⟩
      · simp only [addendsFrom, hx, hfirst, hxs, bind, Except.bind, Option.map_none]
        rfl
      · rw [tallyFrom_of_none hfirst, ← htally]
        rfl
    | some k =>
      by_cases hk : k.val ∈ used
      · obtain ⟨xs, hxs, htally⟩ := ih hitems used
        refine ⟨xs, ?_, ?_⟩
        · simp only [addendsFrom, hx, hfirst, bind, Except.bind, Option.map_some]
          rw [if_pos (List.contains_iff_mem.2 hk), hxs]
        · rw [tallyFrom_of_mem hfirst hk, ← htally]
      · obtain ⟨xs, hxs, htally⟩ := ih hitems (k.val :: used)
        refine ⟨S.number S.entries[k] :: xs, ?_, ?_⟩
        · simp only [addendsFrom, hx, hfirst, bind, Except.bind, Option.map_some]
          rw [if_neg fun hc => hk (List.contains_iff_mem.1 hc), hxs]
          rfl
        · rw [tallyFrom_of_notMem hfirst hk, ← htally]
          rfl

/-! ## Distinct elements -/

theorem decide_misses_congr (h : x.same y = true) : decide (S.Misses x) = decide (S.Misses y) := by
  rw [decide_eq_decide, misses_iff, misses_iff, first?_congr h]

theorem card_missed (items : List Scalar) :
    (S.missed items).card = S.missCount (distinctFrom [] items) := by
  simp only [missCount, countP_distinctFrom, decide_eq_true_eq, not_covered_nil, not_false_iff,
    and_true]
  rfl

theorem hit_distinctFrom (items : List Scalar) : S.hit (distinctFrom [] items) = S.hit items := by
  ext k
  rw [mem_hit, mem_hit]
  refine exists_mem_distinctFrom_iff fun x y hxy => ?_
  rw [isFirst_iff, isFirst_iff, first?_congr hxy]

/-- What the distinct elements add is what adds up for all elements. -/
theorem tallyFrom_distinctFrom (items : List Scalar) :
    S.tallyFrom [] (distinctFrom [] items) = S.tally items := by
  simp only [tallyFrom, hit_distinctFrom, List.not_mem_nil, not_false_iff, Finset.filter_true,
    tally, card_missed]

/-- **Rearranging.** Other places and copies of elements keep what adds up. -/
theorem tally_rearranged (h : items'.Perm (items ++ copies)) (hc : ∀ x ∈ copies, Covered items x) :
    S.tally items' = S.tally items := by
  have hhit : S.hit items' = S.hit items := by
    ext k
    rw [mem_hit, mem_hit]
    constructor
    · rintro ⟨x, hx, hk⟩
      rcases List.mem_append.1 (h.mem_iff.1 hx) with hx | hx
      · exact ⟨x, hx, hk⟩
      · obtain ⟨y, hy, hyx⟩ := hc x hx
        refine ⟨y, hy, ?_⟩
        rwa [isFirst_iff, first?_congr hyx, ← isFirst_iff]
    · rintro ⟨x, hx, hk⟩
      exact ⟨x, h.mem_iff.2 (List.mem_append_left copies hx), hk⟩
  have hmissed : (S.missed items').card = (S.missed items).card := by
    rw [card_missed, card_missed, missCount,
      countP_distinctFrom_of_perm (fun _ _ => decide_misses_congr) h, ← missCount,
      distinctFrom_append, List.nil_append, distinctFrom_of_covered hc, List.append_nil]
  rw [tally, tally, hhit, hmissed]

end Scale

end Assessment
