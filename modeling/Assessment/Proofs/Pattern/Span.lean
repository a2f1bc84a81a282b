import Assessment.Pattern.Match
import Mathlib.Data.Nat.Bitwise
import Mathlib.Order.Interval.Set.Basic

/-!
# Runs of a text

What a matcher means, place by place: `Matcher.Spans` relates the places where a run starts and
where it ends. A step of a matcher takes the places of a set to all places that runs from there end
at, so that a text matches when there is a run in it at all.

The relation says what a pattern means without saying how it is searched for; the search works on
sets of places as numbers, all runs at once.

* `Stepper.reach` takes a set of places along the runs: `isStep_reach`.
* `Matcher.findsIn_iff`: a text matches when a run of it does.
* `Matcher.spans_whole_iff`: held to both ends, it matches when it is a run as a whole.
-/

namespace Assessment.Pattern

/-! ## Runs -/

/-- The character before a place. -/
def before? (text : List Char) : Nat → Option Char
  | 0 => none
  | i + 1 => text[i]?

/-- A way from one place to another in a number of rounds. -/
def Rounds (R : Nat → Nat → Prop) : Nat → Nat → Nat → Prop
  | 0, i, j => i = j
  | n + 1, i, j => ∃ k, R i k ∧ Rounds R n k j

/-- A matcher matches the run of a text between two places. -/
def Matcher.Spans (text : List Char) : Matcher → Nat → Nat → Prop
  | empty, i, j => i = j
  | member set, i, j => j = i + 1 ∧ ∃ c, text[i]? = some c ∧ set.holds c.toNat
  | check look, i, j => i = j ∧ look.holds (before? text i) text[i]?
  | sequence a b, i, j => ∃ k, Spans text a i k ∧ Spans text b k j
  | choice a b, i, j => Spans text a i j ∨ Spans text b i j
  | repetition least most inner, i, j =>
    ∃ n, least ≤ n ∧ (∀ k ∈ most, n ≤ max least k) ∧ Rounds (Spans text inner) n i j

namespace Rounds

variable {R : Nat → Nat → Prop} {i j k m n bound : Nat}

theorem append (h : Rounds R m i k) (h' : Rounds R n k j) : Rounds R (m + n) i j := by
  induction m generalizing i with
  | zero =>
    cases h
    rwa [Nat.zero_add]
  | succ m ih =>
    obtain ⟨l, hl, h⟩ := h
    rw [Nat.succ_add]
    exact ⟨l, hl, ih h⟩

theorem split (h : Rounds R (m + n) i j) : ∃ k, Rounds R m i k ∧ Rounds R n k j := by
  induction m generalizing i with
  | zero => exact ⟨i, rfl, by rwa [Nat.zero_add] at h⟩
  | succ m ih =>
    rw [Nat.succ_add] at h
    obtain ⟨l, hl, h⟩ := h
    obtain ⟨k, hk, h⟩ := ih h
    exact ⟨k, ⟨l, hl, hk⟩, h⟩

theorem le (hR : ∀ i j, R i j → i ≤ j) (h : Rounds R n i j) : i ≤ j := by
  induction n generalizing i with
  | zero => exact h.le
  | succ n ih =>
    obtain ⟨k, hk, h⟩ := h
    exact (hR i k hk).trans (ih h)

theorem le_of_le (hR : ∀ i j, R i j → i ≤ bound → j ≤ bound) (h : Rounds R n i j) (hi : i ≤ bound) :
    j ≤ bound := by
  induction n generalizing i with
  | zero => exact h ▸ hi
  | succ n ih =>
    obtain ⟨k, hk, h⟩ := h
    exact ih h (hR i k hk hi)

/-- Rounds that stay at their place can be left out, so that no more are left than there are
places on the way. -/
theorem exists_short (hR : ∀ i j, R i j → i ≤ j) (h : Rounds R n i j) :
    ∃ m ≤ j - i, Rounds R m i j := by
  induction n generalizing i with
  | zero => exact ⟨0, Nat.zero_le _, h⟩
  | succ n ih =>
    obtain ⟨k, hk, h⟩ := h
    obtain ⟨m, hm, hrounds⟩ := ih h
    obtain rfl | hlt := (hR i k hk).eq_or_lt
    · exact ⟨m, hm, hrounds⟩
    · have := h.le hR
      exact ⟨m + 1, by omega, k, hk, hrounds⟩

end Rounds

namespace Matcher

variable {text : List Char} {m : Matcher} {i j : Nat}

theorem Spans.le (h : m.Spans text i j) : i ≤ j := by
  induction m generalizing i j with
  | empty => exact Nat.le_of_eq h
  | member set =>
    obtain ⟨rfl, -⟩ := h
    exact Nat.le_succ i
  | check look => exact Nat.le_of_eq h.1
  | sequence a b iha ihb =>
    obtain ⟨k, ha, hb⟩ := h
    exact (iha ha).trans (ihb hb)
  | choice a b iha ihb => exact h.elim iha ihb
  | repetition least most inner ih =>
    obtain ⟨n, -, -, h⟩ := h
    exact h.le fun _ _ => ih

/-- A run stays inside its text. -/
theorem Spans.le_length (h : m.Spans text i j) (hi : i ≤ text.length) : j ≤ text.length := by
  induction m generalizing i j with
  | empty => exact h ▸ hi
  | member set =>
    obtain ⟨rfl, c, hc, -⟩ := h
    exact (List.getElem?_eq_some_iff.1 hc).1
  | check look => exact h.1 ▸ hi
  | sequence a b iha ihb =>
    obtain ⟨k, ha, hb⟩ := h
    exact ihb hb (iha ha hi)
  | choice a b iha ihb => exact h.elim (iha · hi) (ihb · hi)
  | repetition least most inner ih =>
    obtain ⟨n, -, -, h⟩ := h
    exact h.le_of_le (fun _ _ => ih) hi

end Matcher

/-! ## Sets of places -/

/-- The places whose bits are set. -/
def placesOf (places : Nat) : Set Nat := {i | places.testBit i}

/-- A step takes sets of places up to a last one along a relation. -/
def IsStep (last : Nat) (R : Nat → Nat → Prop) (step : Nat → Nat) : Prop :=
  ∀ places, placesOf places ⊆ Set.Iic last →
    placesOf (step places) = {j | ∃ i ∈ placesOf places, R i j}

theorem placesOf_eq_empty_iff {places : Nat} : placesOf places = ∅ ↔ places = 0 := by
  rw [Set.eq_empty_iff_forall_notMem]
  constructor
  · intro h
    exact Nat.eq_of_testBit_eq fun i => by simpa [placesOf] using h i
  · rintro rfl i
    simp [placesOf]

theorem placesOf_and (p q : Nat) : placesOf (p &&& q) = placesOf p ∩ placesOf q := by
  ext i
  simp [placesOf, Nat.testBit_and]

theorem placesOf_or (p q : Nat) : placesOf (p ||| q) = placesOf p ∪ placesOf q := by
  ext i
  simp [placesOf, Nat.testBit_or]

/-- The places of one set that another one lacks. -/
theorem placesOf_xor_and (p q : Nat) : placesOf (p ^^^ (p &&& q)) = placesOf p \ placesOf q := by
  ext i
  cases hp : p.testBit i <;> cases hq : q.testBit i <;> simp [placesOf, hp, hq]

theorem placesOf_two_mul (p : Nat) : placesOf (2 * p) = {j | ∃ i ∈ placesOf p, j = i + 1} := by
  ext j
  cases j with
  | zero => simp [placesOf]
  | succ j => simp [placesOf, Nat.testBit_succ]

theorem placesOf_ite_pow (p : Prop) [Decidable p] (k : Nat) :
    placesOf (if p then 2 ^ k else 0) = {i | i = k ∧ p} := by
  ext i
  by_cases hp : p
  · simp [placesOf, hp, Nat.testBit_two_pow, eq_comm]
  · simp [placesOf, hp]

theorem placesOf_memberPlaces (set : CharSet) (k : Nat) (text : List Char) :
    placesOf (memberPlaces set (2 ^ k) text) =
      {i | k ≤ i ∧ ∃ c, text[i - k]? = some c ∧ set.holds c.toNat} := by
  induction text generalizing k with
  | nil =>
    rw [memberPlaces, placesOf_eq_empty_iff.2 rfl]
    simp
  | cons c rest ih =>
    rw [memberPlaces, placesOf_or, placesOf_ite_pow, ← Nat.pow_succ', ih]
    ext i
    obtain hlt | rfl | hgt := Nat.lt_trichotomy i k
    · simp only [Set.mem_union, Set.mem_ofPred_eq, hlt.ne, Nat.not_le.2 hlt,
        Nat.not_le.2 (hlt.trans (Nat.lt_succ_self k)), false_and, or_self]
    · simp
    · obtain ⟨d, rfl⟩ : ∃ d, i = k + 1 + d := ⟨i - (k + 1), by omega⟩
      have hd : k + 1 + d - k = d + 1 := by omega
      have hne : k + 1 + d ≠ k := by omega
      have hle : k ≤ k + 1 + d := by omega
      simp only [Set.mem_union, Set.mem_ofPred_eq, hd, hne, hle, Nat.le_add_right,
        Nat.add_sub_cancel_left, List.getElem?_cons_succ, false_and, true_and, false_or]

theorem placesOf_lookPlaces (look : Look) (k : Nat) (before : Option Char) (text : List Char) :
    placesOf (lookPlaces look (2 ^ k) before text) =
      {i | k ≤ i ∧ i - k ≤ text.length ∧
        look.holds (if i = k then before else before? text (i - k)) text[i - k]?} := by
  induction text generalizing k before with
  | nil =>
    rw [lookPlaces, placesOf_ite_pow]
    ext i
    simp only [Set.mem_ofPred_eq, List.length_nil, List.getElem?_nil]
    constructor
    · rintro ⟨rfl, h⟩
      simpa using h
    · rintro ⟨hle, hlen, h⟩
      obtain rfl : i = k := by omega
      exact ⟨rfl, by simpa using h⟩
  | cons c rest ih =>
    rw [lookPlaces, placesOf_or, placesOf_ite_pow, ← Nat.pow_succ', ih]
    ext i
    obtain hlt | rfl | hgt := Nat.lt_trichotomy i k
    · simp only [Set.mem_union, Set.mem_ofPred_eq, hlt.ne, Nat.not_le.2 hlt,
        Nat.not_le.2 (hlt.trans (Nat.lt_succ_self k)), false_and, or_self]
    · simp
    · obtain ⟨d, rfl⟩ : ∃ d, i = k + 1 + d := ⟨i - (k + 1), by omega⟩
      have hd : k + 1 + d - k = d + 1 := by omega
      have hne : k + 1 + d ≠ k := by omega
      cases d with
      | zero =>
        simp only [Set.mem_union, Set.mem_ofPred_eq, hd, hne]
        simp [before?]
      | succ d =>
        simp only [Set.mem_union, Set.mem_ofPred_eq, hd, hne]
        simp [before?, show k ≤ k + 1 + (d + 1) by omega]

/-! ## Steps -/

section Steps

variable {last : Nat} {R : Nat → Nat → Prop} {step : Nat → Nat} {places : Nat}

theorem IsStep.subset (hstep : IsStep last R step) (hR : ∀ i j, R i j → i ≤ last → j ≤ last)
    (hp : placesOf places ⊆ Set.Iic last) : placesOf (step places) ⊆ Set.Iic last := by
  rw [hstep places hp]
  rintro j ⟨i, hi, hij⟩
  exact hR i j hij (hp hi)

theorem isStep_stepTimes (hstep : IsStep last R step) (hR : ∀ i j, R i j → i ≤ last → j ≤ last)
    (n : Nat) : IsStep last (Rounds R n) (stepTimes step n) := by
  induction n with
  | zero =>
    intro places _
    simp [stepTimes, Rounds]
  | succ n ih =>
    intro places hp
    rw [stepTimes]
    split
    · rename_i hzero
      subst hzero
      simp [placesOf]
    · rw [ih _ (hstep.subset hR hp), hstep places hp]
      ext j
      constructor
      · rintro ⟨k, ⟨i, hi, hik⟩, h⟩
        exact ⟨i, hi, k, hik, h⟩
      · rintro ⟨i, hi, k, hik, h⟩
        exact ⟨k, ⟨i, hi, hik⟩, h⟩

/-- What the search for more places finds, when places that are not new lead to places reached. -/
theorem placesOf_stepUpTo (hstep : IsStep last R step)
    (hR : ∀ i j, R i j → i ≤ last → j ≤ last) (n : Nat) {reached new : Nat}
    (hlast : placesOf reached ⊆ Set.Iic last) (hnew : placesOf new ⊆ placesOf reached)
    (hold : ∀ i ∈ placesOf reached, i ∉ placesOf new → ∀ j, R i j → j ∈ placesOf reached) :
    placesOf (stepUpTo step n reached new) =
      {j | ∃ m ≤ n, ∃ i ∈ placesOf reached, Rounds R m i j} := by
  induction n generalizing reached new with
  | zero =>
    ext j
    simp [stepUpTo, Rounds]
  | succ n ih =>
    have hnext := hstep new (hnew.trans hlast)
    have hfresh := placesOf_xor_and (step new) reached
    rw [stepUpTo]
    generalize step new ^^^ (step new &&& reached) = fresh at hfresh ⊢
    -- A step from what is reached leads to what is reached or fresh.
    have hlead : ∀ i ∈ placesOf reached, ∀ j, R i j → j ∈ placesOf reached ∪ placesOf fresh := by
      intro i hi j hij
      rw [hfresh, Set.union_sdiff_self]
      by_cases hin : i ∈ placesOf new
      · exact .inr (hnext ▸ ⟨i, hin, hij⟩)
      · exact .inl (hold i hi hin j hij)
    split
    · rename_i hzero
      rw [placesOf_eq_empty_iff.2 hzero, Set.union_empty] at hlead
      ext j
      constructor
      · intro hj
        exact ⟨0, Nat.zero_le _, j, hj, rfl⟩
      · rintro ⟨m, -, i, hi, h⟩
        clear * - hlead hi h
        induction m generalizing i with
        | zero => exact h ▸ hi
        | succ m ih =>
          obtain ⟨k, hik, h⟩ := h
          exact ih k (hlead i hi k hik) h
    · rw [ih]
      · ext j
        rw [placesOf_or]
        constructor
        · rintro ⟨m, hm, i, hi | hi, h⟩
          · exact ⟨m, by omega, i, hi, h⟩
          · rw [hfresh, hnext] at hi
            obtain ⟨⟨k, hk, hki⟩, -⟩ := hi
            exact ⟨m + 1, by omega, k, hnew hk, i, hki, h⟩
        · rintro ⟨m, hm, i, hi, h⟩
          cases m with
          | zero => exact ⟨0, Nat.zero_le _, i, .inl hi, h⟩
          | succ m =>
            obtain ⟨k, hik, h⟩ := h
            exact ⟨m, by omega, k, hlead i hi k hik, h⟩
      · rw [placesOf_or, hfresh]
        refine Set.union_subset hlast (Set.sdiff_subset.trans ?_)
        exact hstep.subset hR (hnew.trans hlast)
      · rw [placesOf_or]
        exact Set.subset_union_right
      · rw [placesOf_or]
        rintro i (hi | hi) hin j hij
        · exact hlead i hi j hij
        · exact absurd hi hin

/-- A repetition goes along some number of rounds between its two counts. -/
theorem isStep_repetition (hstep : IsStep last R step)
    (hR : ∀ i j, R i j → i ≤ last → j ≤ last) (least most : Nat) :
    IsStep last (fun i j => ∃ n, least ≤ n ∧ n ≤ max least most ∧ Rounds R n i j) fun places =>
      stepUpTo step (most - least) (stepTimes step least places)
        (stepTimes step least places) := by
  intro places hp
  have htimes := isStep_stepTimes hstep hR least
  have hlast := htimes.subset (fun i j h => h.le_of_le hR) hp
  rw [placesOf_stepUpTo hstep hR _ hlast subset_rfl fun i hi hin => absurd hi hin,
    htimes places hp]
  ext j
  constructor
  · rintro ⟨m, hm, k, ⟨i, hi, hik⟩, h⟩
    exact ⟨i, hi, least + m, by omega, by omega, hik.append h⟩
  · rintro ⟨i, hi, n, hleast, hmost, h⟩
    obtain ⟨m, rfl⟩ := Nat.exists_eq_add_of_le hleast
    obtain ⟨k, hik, h⟩ := h.split
    exact ⟨m, by omega, k, ⟨i, hi, hik⟩, h⟩

end Steps

/-! ## Matching -/

/-- **A step of a matcher goes along the runs it matches.** -/
theorem isStep_reach (text : List Char) (m : Matcher) :
    IsStep text.length (m.Spans text) (m.on text).reach := by
  induction m with
  | empty =>
    intro places _
    simp [Matcher.on, Stepper.reach, Matcher.Spans]
  | member set =>
    intro places _
    have hset := placesOf_memberPlaces set 0 text
    rw [pow_zero] at hset
    rw [Matcher.on, Stepper.reach, placesOf_two_mul, placesOf_and, hset]
    ext j
    simp only [Set.mem_inter_iff, Set.mem_ofPred_eq, Nat.zero_le, true_and, Nat.sub_zero,
      Matcher.Spans]
    constructor
    · rintro ⟨i, ⟨hi, hc⟩, rfl⟩
      exact ⟨i, hi, rfl, hc⟩
    · rintro ⟨i, hi, rfl, hc⟩
      exact ⟨i, ⟨hi, hc⟩, rfl⟩
  | check look =>
    intro places hp
    have hlook := placesOf_lookPlaces look 0 none text
    rw [pow_zero] at hlook
    rw [Matcher.on, Stepper.reach, placesOf_and, hlook]
    ext j
    have hbefore : (if j = 0 then none else before? text (j - 0)) = before? text j := by
      cases j <;> rfl
    simp only [Set.mem_inter_iff, Set.mem_ofPred_eq, Nat.zero_le, true_and, Nat.sub_zero,
      Matcher.Spans]
    rw [Nat.sub_zero] at hbefore
    rw [hbefore]
    constructor
    · rintro ⟨hj, -, h⟩
      exact ⟨j, hj, rfl, h⟩
    · rintro ⟨i, hi, rfl, h⟩
      exact ⟨hi, hp hi, h⟩
  | sequence a b iha ihb =>
    intro places hp
    have ha := iha.subset (fun i j h hi => h.le_length hi) hp
    rw [Matcher.on, Stepper.reach, ihb _ ha, iha places hp]
    ext j
    constructor
    · rintro ⟨k, ⟨i, hi, hik⟩, h⟩
      exact ⟨i, hi, k, hik, h⟩
    · rintro ⟨i, hi, k, hik, h⟩
      exact ⟨k, ⟨i, hi, hik⟩, h⟩
  | choice a b iha ihb =>
    intro places hp
    rw [Matcher.on, Stepper.reach, placesOf_or, iha places hp, ihb places hp]
    ext j
    constructor
    · rintro (⟨i, hi, h⟩ | ⟨i, hi, h⟩)
      · exact ⟨i, hi, .inl h⟩
      · exact ⟨i, hi, .inr h⟩
    · rintro ⟨i, hi, h | h⟩
      · exact .inl ⟨i, hi, h⟩
      · exact .inr ⟨i, hi, h⟩
  | repetition least most inner ih =>
    intro places hp
    have hinner : ∀ i j, inner.Spans text i j → i ≤ text.length → j ≤ text.length :=
      fun i j h hi => h.le_length hi
    rw [Matcher.on, Stepper.reach, isStep_repetition ih hinner _ _ places hp]
    ext j
    constructor
    · rintro ⟨i, hi, n, hleast, hmost, h⟩
      cases most with
      | none => exact ⟨i, hi, n, hleast, by simp, h⟩
      | some most => exact ⟨i, hi, n, hleast, by simpa using hmost, h⟩
    · rintro ⟨i, hi, n, hleast, hmost, h⟩
      cases most with
      | some most => exact ⟨i, hi, n, hleast, by simpa using hmost, h⟩
      | none =>
        -- After the first rounds, no more are of use than there are places.
        obtain ⟨m, rfl⟩ := Nat.exists_eq_add_of_le hleast
        obtain ⟨k, hik, h⟩ := h.split
        obtain ⟨m', hm', h⟩ := h.exists_short fun _ _ h => h.le
        have hk : k ≤ text.length := hik.le_of_le hinner (hp hi)
        have hj : j ≤ text.length := h.le_of_le hinner hk
        refine ⟨i, hi, least + m', Nat.le_add_right _ _, ?_, hik.append h⟩
        rw [Option.getD_none]
        omega

/-- **A text matches when a run of it does.** -/
theorem Matcher.findsIn_iff (m : Matcher) (text : List Char) :
    m.findsIn text = true ↔ ∃ i ≤ text.length, ∃ j, m.Spans text i j := by
  have hall : placesOf (Nat.pow 2 (text.length + 1) - 1) = Set.Iic text.length := by
    ext i
    show Nat.testBit (2 ^ (text.length + 1) - 1) i = true ↔ i ≤ text.length
    rw [Nat.testBit_two_pow_sub_one, decide_eq_true_eq, Nat.lt_succ_iff]
  have hreach := isStep_reach text m _ hall.subset
  rw [findsIn, bne_iff_ne, Ne, ← placesOf_eq_empty_iff, hreach, hall, ← Ne,
    ← Set.nonempty_iff_ne_empty]
  constructor
  · rintro ⟨j, i, hi, h⟩
    exact ⟨i, hi, j, h⟩
  · rintro ⟨i, hi, j, h⟩
    exact ⟨j, i, hi, h⟩

/-- A matcher held to both ends of a text. -/
def Matcher.whole (m : Matcher) : Matcher :=
  .sequence (.check .textStart) (.sequence m (.sequence (.check .textEnd) .empty))

theorem before?_eq_none_iff {text : List Char} {i : Nat} (hi : i ≤ text.length) :
    before? text i = none ↔ i = 0 := by
  cases i with
  | zero => simp [before?]
  | succ i => simpa [before?, Nat.succ_le_iff] using hi

/-- Held to both ends, a matcher matches the texts that are runs of it from end to end. -/
theorem Matcher.spans_whole_iff (m : Matcher) (text : List Char) :
    (∃ i ≤ text.length, ∃ j, m.whole.Spans text i j) ↔ m.Spans text 0 text.length := by
  constructor
  · rintro ⟨i, hi, j, _, ⟨rfl, hstart⟩, k, h, _, ⟨rfl, hend⟩, rfl⟩
    obtain rfl : i = 0 := (before?_eq_none_iff hi).1 (Option.isNone_iff_eq_none.1 hstart)
    have hk : text.length ≤ k := List.getElem?_eq_none_iff.1 (Option.isNone_iff_eq_none.1 hend)
    rwa [(h.le_length hi).antisymm hk] at h
  · intro h
    refine ⟨0, Nat.zero_le _, text.length, 0, ⟨rfl, rfl⟩, text.length, h, text.length, ⟨rfl, ?_⟩,
      rfl⟩
    exact Option.isNone_iff_eq_none.2 (List.getElem?_eq_none_iff.2 le_rfl)

end Assessment.Pattern
