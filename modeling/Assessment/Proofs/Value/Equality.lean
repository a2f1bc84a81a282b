import Assessment.Proofs.Numeric.Equality
import Assessment.Proofs.Value.Finite
import Mathlib.Data.List.Forall2

/-!
# Equality of values

Scalars are the same up to the order of a pair's parts and the sign of a zero, and NaN is the same
as nothing. This is a partial equivalence, reflexive on scalars other than NaN, and so is sameness
of values. Two multisets are the same when each scalar occurs in both equally often: for each
element of the first the comparison takes from the second the first element that is the same, and
which one it takes makes no difference to the counts.

The code is the equality of `Scalar` and of `Value`, with `same_elements` for multisets. It decides
match, member, contains, delete, the keys of mappings and the correctness of items.

* `Container.includes_iff`, `Container.sameElements_iff`: the comparison in terms of counts.
* `Value.same_equivalence`: sameness of values is an equivalence, and decides multisets.
-/

namespace Assessment

open Numeric

/-! ## Scalars -/

namespace Scalar

variable {a b c : Scalar}

/-- Whether a scalar is a float or a duration that is no number. -/
def isNaN : Scalar → Bool
  | float x | duration x => x.isNaN
  | _ => false

theorem same_self_iff (s : Scalar) : s.same s = true ↔ s.isNaN = false := by
  cases s with
  | float x | duration x => exact float_beq_self_iff
  | _ => simp [same, isNaN]

theorem same_comm (a b : Scalar) : a.same b = b.same a := by
  cases a <;> cases b <;> try rfl
  case float.float x y | duration.duration x y => exact float_beq_comm x y
  case pair.pair x y z w =>
    rw [same, same, Bool.beq_comm (a := z), Bool.beq_comm (a := w), Bool.beq_comm (a := z) (b := y),
      Bool.beq_comm (a := w) (b := x), Bool.and_comm (x == w)]
  all_goals simp only [same, Bool.beq_comm]

theorem same_trans (hab : a.same b = true) (hbc : b.same c = true) : a.same c = true := by
  -- What is the same has one base type, so that three of one kind are left.
  cases a <;> cases b <;> try cases hab
  all_goals cases c <;> try cases hbc
  case float.float.float | duration.duration.duration => exact float_beq_trans hab hbc
  case pair.pair.pair =>
    simp only [same, Bool.or_eq_true, Bool.and_eq_true, beq_iff_eq] at hab hbc ⊢
    rcases hab with ⟨rfl, rfl⟩ | ⟨rfl, rfl⟩ <;> rcases hbc with ⟨rfl, rfl⟩ | ⟨rfl, rfl⟩ <;> simp
  all_goals simp_all [same]

/-- What is the same is the same as the same scalars. -/
theorem same_congr (h : a.same b = true) (c : Scalar) : a.same c = b.same c :=
  Bool.eq_iff_iff.2 ⟨same_trans (same_comm a b ▸ h), same_trans h⟩

theorem isNaN_of_same (h : a.same b = true) : a.isNaN = false :=
  (same_self_iff a).1 (same_trans h (same_comm a b ▸ h))

end Scalar

/-! ## Elements -/

namespace Container

variable {s : Scalar} {l m inner outer : List Scalar}

/-- How many elements of a list are the same as a scalar. -/
def occurrences (s : Scalar) (l : List Scalar) : Nat := l.countP fun x => x.same s

theorem occurrences_cons (s x : Scalar) (l : List Scalar) :
    occurrences s (x :: l) = occurrences s l + if x.same s = true then 1 else 0 :=
  List.countP_cons

/-- A scalar is removed where it occurs: one element that is the same. -/
theorem perm_of_removeSame? :
    ∀ {l m : List Scalar}, removeSame? s l = some m → ∃ x, x.same s = true ∧ l.Perm (x :: m)
  | [], _, h => by cases h
  | x :: rest, m, h => by
    unfold removeSame? at h
    split at h
    · rename_i hx
      cases h
      exact ⟨x, hx, .refl _⟩
    · obtain ⟨r, hr, rfl⟩ := Option.map_eq_some_iff.1 h
      obtain ⟨y, hy, hperm⟩ := perm_of_removeSame? hr
      exact ⟨y, hy, (hperm.cons x).trans (.swap y x r)⟩

theorem exists_removeSame? :
    ∀ {l : List Scalar}, 0 < occurrences s l → ∃ m, removeSame? s l = some m
  | [], h => by cases h
  | x :: rest, h => by
    unfold removeSame?
    split
    · exact ⟨rest, rfl⟩
    · rename_i hx
      rw [occurrences_cons, if_neg hx] at h
      obtain ⟨m, hm⟩ := exists_removeSame? h
      exact ⟨x :: m, by rw [hm]; rfl⟩

theorem occurrences_of_removeSame? (h : removeSame? s l = some m) (r : Scalar) :
    occurrences r l = occurrences r m + if s.same r = true then 1 else 0 := by
  obtain ⟨x, hx, hperm⟩ := perm_of_removeSame? h
  rw [occurrences, hperm.countP_eq, ← occurrences, occurrences_cons, Scalar.same_congr hx]

/-- A list that includes another splits into what is taken for the other, element by element, and
a rest. -/
theorem exists_taken :
    ∀ {inner outer : List Scalar}, includes outer inner = true →
      ∃ taken rest, outer.Perm (taken ++ rest) ∧
        List.Forall₂ (fun x s => x.same s = true) taken inner
  | [], outer, _ => ⟨[], outer, .refl _, .nil⟩
  | s :: inner, outer, h => by
    unfold includes at h
    split at h
    · rename_i m hm
      obtain ⟨x, hx, hperm⟩ := perm_of_removeSame? hm
      obtain ⟨taken, rest, hrest, hall⟩ := exists_taken h
      exact ⟨x :: taken, rest, hperm.trans (hrest.cons x), .cons hx hall⟩
    · cases h

theorem occurrences_of_forall₂ (s : Scalar)
    (h : List.Forall₂ (fun x y : Scalar => x.same y = true) l m) :
    occurrences s l = occurrences s m := by
  induction h with
  | nil => rfl
  | cons hxy _ ih => rw [occurrences_cons, occurrences_cons, ih, Scalar.same_congr hxy]

theorem isNaN_of_forall₂ (h : List.Forall₂ (fun x y : Scalar => x.same y = true) l m) :
    ∀ x ∈ l, x.isNaN = false := by
  induction h with
  | nil => simp
  | cons hxy _ ih => exact List.forall_mem_cons.2 ⟨Scalar.isNaN_of_same hxy, ih⟩

/-- **Inclusion counts.** A list includes another exactly when the other has no NaN and no scalar
more often. -/
theorem includes_iff : ∀ {inner outer : List Scalar},
    includes outer inner = true ↔
      (∀ s ∈ inner, s.isNaN = false) ∧ ∀ s, occurrences s inner ≤ occurrences s outer
  | [], outer => by simp [includes, occurrences]
  | s :: inner, outer => by
    unfold includes
    constructor
    · intro h
      split at h
      · rename_i m hm
        obtain ⟨hnan, hle⟩ := includes_iff.1 h
        obtain ⟨x, hx, -⟩ := perm_of_removeSame? hm
        refine ⟨List.forall_mem_cons.2 ⟨Scalar.isNaN_of_same (Scalar.same_comm x s ▸ hx), hnan⟩,
          fun r => ?_⟩
        rw [occurrences_cons, occurrences_of_removeSame? hm]
        exact Nat.add_le_add_right (hle r) _
      · cases h
    · rintro ⟨hnan, hle⟩
      obtain ⟨hs, hnan⟩ := List.forall_mem_cons.1 hnan
      have hpos : 0 < occurrences s outer := by
        refine Nat.lt_of_lt_of_le ?_ (hle s)
        rw [occurrences_cons, if_pos ((Scalar.same_self_iff s).2 hs)]
        omega
      obtain ⟨m, hm⟩ := exists_removeSame? hpos
      rw [hm]
      refine includes_iff.2 ⟨hnan, fun r => ?_⟩
      have := hle r
      rw [occurrences_cons, occurrences_of_removeSame? hm] at this
      exact Nat.le_of_add_le_add_right this

theorem length_le_of_includes (h : includes outer inner = true) : inner.length ≤ outer.length := by
  obtain ⟨taken, rest, hperm, hall⟩ := exists_taken h
  rw [hperm.length_eq, List.length_append, hall.length_eq]
  omega

/-- **Multisets are the same by counts**: exactly when none has a NaN, their base types are equal
and each scalar occurs in both equally often. -/
theorem sameElements_iff (a b : Container) :
    a.sameElements b = true ↔
      ((∀ s ∈ a.items, s.isNaN = false) ∧ ∀ s ∈ b.items, s.isNaN = false) ∧
        a.baseType = b.baseType ∧ ∀ s, occurrences s a.items = occurrences s b.items := by
  simp only [sameElements, Bool.and_eq_true, beq_iff_eq, size]
  constructor
  · rintro ⟨⟨htype, hsize⟩, h⟩
    obtain ⟨taken, rest, hperm, hall⟩ := exists_taken h
    have hrest : rest = [] := by
      have := hperm.length_eq
      rw [List.length_append, hall.length_eq, hsize] at this
      exact List.eq_nil_of_length_eq_zero (by omega)
    rw [hrest, List.append_nil] at hperm
    refine ⟨⟨(includes_iff.1 h).1, fun s hs => isNaN_of_forall₂ hall s (hperm.mem_iff.1 hs)⟩, htype,
      fun s => ?_⟩
    rw [← occurrences_of_forall₂ s hall, occurrences, occurrences, hperm.countP_eq]
  · rintro ⟨⟨ha, hb⟩, htype, hcount⟩
    have hba : includes b.items a.items = true := includes_iff.2 ⟨ha, fun s => (hcount s).le⟩
    have hab : includes a.items b.items = true := includes_iff.2 ⟨hb, fun s => (hcount s).ge⟩
    exact ⟨⟨htype, (length_le_of_includes hba).antisymm (length_le_of_includes hab)⟩, hba⟩

/-- The order of the elements makes no difference. -/
theorem sameElements_of_perm {a a' b b' : Container} (ha : a'.baseType = a.baseType)
    (hpa : a'.items.Perm a.items) (hb : b'.baseType = b.baseType) (hpb : b'.items.Perm b.items) :
    a'.sameElements b' = a.sameElements b := by
  rw [Bool.eq_iff_iff, sameElements_iff, sameElements_iff]
  simp only [hpa.mem_iff, hpb.mem_iff, ha, hb, occurrences, hpa.countP_eq, hpb.countP_eq]

/-! ## Sequences -/

theorem sameList_self_iff : ∀ l : List Scalar,
    sameList l l = true ↔ ∀ s ∈ l, s.isNaN = false
  | [] => by simp [sameList]
  | s :: l => by
    rw [sameList, Bool.and_eq_true, List.forall_mem_cons, Scalar.same_self_iff, sameList_self_iff l]

theorem sameList_comm : ∀ l m : List Scalar, sameList l m = sameList m l
  | [], [] | [], _ :: _ | _ :: _, [] => rfl
  | a :: l, b :: m => by rw [sameList, sameList, Scalar.same_comm, sameList_comm l m]

theorem sameList_trans : ∀ {l m n : List Scalar},
    sameList l m = true → sameList m n = true → sameList l n = true
  | [], [], _, _, h => h
  | _ :: _, _ :: _, [], _, h => by cases h
  | a :: l, b :: m, c :: n, hlm, hmn => by
    rw [sameList, Bool.and_eq_true] at *
    exact ⟨Scalar.same_trans hlm.1 hmn.1, sameList_trans hlm.2 hmn.2⟩

end Container

/-! ## Values -/

namespace Value

open Container

/-- No float and no duration in a value is NaN. -/
def NaNFree (v : Value) : Prop := ∀ s ∈ v.scalars, s.isNaN = false

/-- Records are the same when their names are and their scalars are in the order of the names. -/
theorem sameFields_eq : ∀ f g : List (String × Scalar),
    sameFields f g = (f.map (·.1) == g.map (·.1) && sameList (f.map (·.2)) (g.map (·.2)))
  | [], [] | [], _ :: _ | _ :: _, [] => rfl
  | (k, a) :: f, (l, b) :: g => by
    rw [sameFields, sameFields_eq f g, List.map_cons, List.map_cons, List.map_cons, List.map_cons,
      sameList, List.cons_beq_cons, Bool.and_assoc, Bool.and_assoc, Bool.and_left_comm (a.same b)]

theorem same_self_iff (v : Value) : v.same v = true ↔ v.NaNFree := by
  cases v with
  | null => simp [same, NaNFree, scalars]
  | single s => simp [same, NaNFree, scalars, Scalar.same_self_iff]
  | multiple c => simp [same, NaNFree, scalars, sameElements_iff]
  | ordered c => simp [same, NaNFree, scalars, sameSequence, sameList_self_iff]
  | record fields =>
    simp [same, NaNFree, scalars, sameFields_eq, sameList_self_iff, Table.values]

theorem same_comm (u v : Value) : u.same v = v.same u := by
  cases u <;> cases v <;> try rfl
  case single.single a b => exact Scalar.same_comm a b
  case multiple.multiple a b =>
    rw [same, same, Bool.eq_iff_iff, sameElements_iff, sameElements_iff]
    simp only [and_comm, eq_comm]
  case ordered.ordered a b =>
    rw [same, same, sameSequence, sameSequence, sameList_comm, Bool.beq_comm]
  case record.record f g =>
    rw [same, same, sameFields_eq, sameFields_eq, sameList_comm, Bool.beq_comm]

theorem same_trans {u v w : Value} (huv : u.same v = true) (hvw : v.same w = true) :
    u.same w = true := by
  cases u <;> cases v <;> try cases huv
  all_goals cases w <;> try (cases hvw; try rfl)
  case single.single.single => exact Scalar.same_trans huv hvw
  case multiple.multiple.multiple a b c =>
    rw [same, sameElements_iff] at *
    obtain ⟨⟨ha, -⟩, htype, hcount⟩ := huv
    obtain ⟨⟨-, hc⟩, htype', hcount'⟩ := hvw
    exact ⟨⟨ha, hc⟩, htype.trans htype', fun s => (hcount s).trans (hcount' s)⟩
  case ordered.ordered.ordered =>
    simp only [same, sameSequence, Bool.and_eq_true, beq_iff_eq] at *
    exact ⟨huv.1.trans hvw.1, sameList_trans huv.2 hvw.2⟩
  case record.record.record =>
    simp only [same, sameFields_eq, Bool.and_eq_true, beq_iff_eq] at *
    exact ⟨huv.1.trans hvw.1, sameList_trans huv.2 hvw.2⟩

/-- **Sameness of values is an equivalence and decides multisets.** It is reflexive on the values
without NaN and on no others, symmetric and transitive. Two multisets without NaN are the same
exactly when they have one base type and each scalar occurs in both equally often; their elements
may stand in any order, and so may the parts of a pair. -/
theorem same_equivalence :
    (∀ v : Value, v.same v = true ↔ v.NaNFree) ∧
    (∀ u v : Value, u.same v = v.same u) ∧
    (∀ u v w : Value, u.same v = true → v.same w = true → u.same w = true) ∧
    (∀ a b : Container, (multiple a).NaNFree → (multiple b).NaNFree →
      ((multiple a).same (multiple b) = true ↔
        a.baseType = b.baseType ∧ ∀ s, occurrences s a.items = occurrences s b.items)) ∧
    (∀ a a' b b' : Container, a'.baseType = a.baseType → a'.items.Perm a.items →
      b'.baseType = b.baseType → b'.items.Perm b.items →
      (multiple a').same (multiple b') = (multiple a).same (multiple b)) ∧
    ∀ x y : String, (Scalar.pair x y).same (.pair y x) = true := by
  refine ⟨same_self_iff, same_comm, fun u v w => same_trans, fun a b ha hb => ?_,
    fun a a' b b' ha hpa hb hpb => sameElements_of_perm ha hpa hb hpb, fun x y => ?_⟩
  · rw [same, sameElements_iff, and_iff_right ⟨ha, hb⟩]
  · rw [Scalar.same_comm]
    simp [Scalar.same]

/-- Two pairs in another order, each with its parts exchanged, are the same multiset, and each
scalar occurs in both equally often. -/
theorem same_exchangedPairs :
    (multiple ⟨.pair, [.pair "A" "B", .pair "C" "D"], by decide⟩).same
        (multiple ⟨.pair, [.pair "D" "C", .pair "B" "A"], by decide⟩) = true ∧
      ∀ s, occurrences s [.pair "A" "B", .pair "C" "D"] =
        occurrences s [.pair "D" "C", .pair "B" "A"] := by
  have hsame : (multiple ⟨.pair, [.pair "A" "B", .pair "C" "D"], by decide⟩).same
      (multiple ⟨.pair, [.pair "D" "C", .pair "B" "A"], by decide⟩) = true := by decide
  obtain ⟨-, -, -, hcount, -⟩ := same_equivalence
  refine ⟨hsame, ((hcount _ _ ?_ ?_).1 hsame).2⟩
  all_goals
    intro s hs
    simp only [scalars, List.mem_cons, List.not_mem_nil, or_false] at hs
    rcases hs with rfl | rfl <;> rfl

end Value

end Assessment
