import Assessment.Expr.Binary
import Assessment.Proofs.Value.Equality

/-!
# Membership, inclusion and removal

`member`, `contains` and `delete` tell of a container how many of its elements are the same as a
scalar. A multiset contains another when it has each scalar as often, a sequence contains another
when that is a run of neighbouring elements, and what is deleted is the first element that is the
same. A NaN is the same as nothing, so a multiset with one is contained in none.

The code is the arms member, contains and delete of `eval_expr`, on the equality of scalars that
`Scalar` has.

* `Container.hasRun_iff`: what it means that a sequence is a run of another.
* `Container.without_erase`: what is deleted, and what is kept.
* `BinaryOp.container_algebra`: the three operators in terms of counts.
-/

namespace Assessment

namespace Container

variable {s x : Scalar} {m inner : List Scalar} {c : Container}

/-! ## Runs of neighbouring elements -/

/-- A list starts with a sequence when it splits into what is the same as the sequence, element by
element, and a rest. -/
theorem startsWith_iff : ∀ {l inner : List Scalar},
    startsWith l inner = true ↔
      ∃ run rest, l = run ++ rest ∧ List.Forall₂ (fun y s => y.same s = true) run inner
  | l, [] => by
    rw [startsWith]
    exact iff_of_true rfl ⟨[], l, rfl, .nil⟩
  | [], s :: inner => by
    rw [startsWith]
    refine iff_of_false Bool.false_ne_true ?_
    rintro ⟨run, rest, hl, hrun⟩
    cases hrun
    cases hl
  | y :: l, s :: inner => by
    rw [startsWith, Bool.and_eq_true, startsWith_iff]
    constructor
    · rintro ⟨hy, run, rest, rfl, hrun⟩
      exact ⟨y :: run, rest, rfl, .cons hy hrun⟩
    · rintro ⟨run, rest, hl, hrun⟩
      cases hrun with
      | cons hy hrun =>
        cases hl
        exact ⟨hy, _, rest, rfl, hrun⟩

/-- **Runs.** A sequence occurs in a list when some neighbouring elements of the list are the same
as it, element by element. -/
theorem hasRun_iff : ∀ {outer : List Scalar},
    hasRun inner outer = true ↔
      ∃ before run after, outer = before ++ run ++ after ∧
        List.Forall₂ (fun y s => y.same s = true) run inner
  | [] => by
    rw [hasRun, List.isEmpty_iff]
    constructor
    · rintro rfl
      exact ⟨[], [], [], rfl, .nil⟩
    · rintro ⟨before, run, after, hl, hrun⟩
      obtain ⟨hl, -⟩ := List.append_eq_nil_iff.1 hl.symm
      obtain ⟨-, rfl⟩ := List.append_eq_nil_iff.1 hl
      cases hrun
      rfl
  | y :: l => by
    rw [hasRun, Bool.or_eq_true, startsWith_iff, hasRun_iff]
    constructor
    · rintro (⟨run, rest, hl, hrun⟩ | ⟨before, run, after, rfl, hrun⟩)
      · exact ⟨[], run, rest, hl, hrun⟩
      · exact ⟨y :: before, run, after, rfl, hrun⟩
    · rintro ⟨before, run, after, hl, hrun⟩
      cases before with
      | nil => exact .inl ⟨run, after, hl, hrun⟩
      | cons z before =>
        cases hl
        exact .inr ⟨before, run, after, rfl, hrun⟩

/-! ## Removal -/

theorem contains_iff : c.contains s = true ↔ 0 < occurrences s c.items := by
  rw [contains, List.any_eq_true, occurrences, List.countP_pos_iff]

/-- The element removed is the first that is the same. -/
theorem split_of_removeSame? : ∀ {l m : List Scalar}, removeSame? s l = some m →
    ∃ before y after, l = before ++ y :: after ∧ (∀ z ∈ before, z.same s = false) ∧
      y.same s = true ∧ m = before ++ after
  | [], _, h => by cases h
  | y :: l, m, h => by
    unfold removeSame? at h
    split at h
    · rename_i hy
      cases h
      exact ⟨[], y, _, rfl, by simp, hy, rfl⟩
    · rename_i hy
      obtain ⟨r, hr, rfl⟩ := Option.map_eq_some_iff.1 h
      obtain ⟨before, z, after, rfl, hbefore, hz, rfl⟩ := split_of_removeSame? hr
      exact ⟨y :: before, z, after, rfl,
        List.forall_mem_cons.2 ⟨Bool.eq_false_iff.2 hy, hbefore⟩, hz, rfl⟩

theorem occurrences_eq_zero_of_removeSame? (h : removeSame? s l = none) : occurrences s l = 0 := by
  by_contra hpos
  obtain ⟨m, hm⟩ := exists_removeSame? (Nat.pos_of_ne_zero hpos)
  rw [hm] at h
  cases h

theorem items_erase_of_some (h : removeSame? x c.items = some m) : (c.erase x).items = m := by
  unfold erase
  split
  · rename_i hnone
    rw [h] at hnone
    cases hnone
  · rename_i rest hsome
    rw [h] at hsome
    cases hsome
    rfl

theorem erase_of_none (h : removeSame? x c.items = none) : c.erase x = c := by
  unfold erase
  split
  · rfl
  · rename_i rest hsome
    rw [h] at hsome
    cases hsome

theorem baseType_erase (c : Container) (x : Scalar) : (c.erase x).baseType = c.baseType := by
  unfold erase
  split <;> rfl

/-- **A container without a scalar**: the first element that is the same is gone and the others are
in order, so there is one less of it and as many of all else; where there is none, nothing
changes. -/
structure Without (x : Scalar) (c d : Container) : Prop where
  baseType : d.baseType = c.baseType
  first : 0 < occurrences x c.items →
    ∃ before y after, c.items = before ++ y :: after ∧ (∀ z ∈ before, z.same x = false) ∧
      y.same x = true ∧ d.items = before ++ after
  absent : occurrences x c.items = 0 → d = c
  count_same : occurrences x d.items = occurrences x c.items - 1
  count_other : ∀ y, y.same x = false → occurrences y d.items = occurrences y c.items

theorem without_erase (c : Container) (x : Scalar) : Without x c (c.erase x) := by
  cases h : removeSame? x c.items with
  | none =>
    have hzero := occurrences_eq_zero_of_removeSame? h
    rw [erase_of_none h]
    refine ⟨rfl, fun hpos => ?_, fun _ => rfl, by rw [hzero], fun _ _ => rfl⟩
    rw [hzero] at hpos
    exact absurd hpos (Nat.lt_irrefl 0)
  | some m =>
    have hitems := items_erase_of_some h
    obtain ⟨before, y, after, hc, hbefore, hy, rfl⟩ := split_of_removeSame? h
    have hcount := occurrences_of_removeSame? h
    -- What is the same as an element is the same as itself.
    have hx : x.same x = true := Scalar.same_trans (Scalar.same_comm y x ▸ hy) hy
    have hself := hcount x
    rw [if_pos hx] at hself
    refine ⟨baseType_erase c x, fun _ => ⟨before, y, after, hc, hbefore, hy, hitems⟩,
      fun hzero => ?_, ?_, fun z hz => ?_⟩
    · omega
    · rw [hitems, hself, Nat.add_sub_cancel]
    · rw [hitems, hcount z, if_neg (by simp [Scalar.same_comm x z, hz]), Nat.add_zero]

/-! ## One element -/

/-- The container of one scalar. -/
def ofScalar (x : Scalar) : Container := ⟨x.baseType, [x], by simp⟩

theorem includes_singleton (x : Scalar) (c : Container) :
    includes c.items [x] = c.contains x := by
  rw [Bool.eq_iff_iff, contains_iff, includes]
  cases h : removeSame? x c.items with
  | none => simp [occurrences_eq_zero_of_removeSame? h]
  | some m =>
    obtain ⟨y, hy, hperm⟩ := perm_of_removeSame? h
    refine iff_of_true rfl ?_
    rw [occurrences, hperm.countP_eq, ← occurrences, occurrences_cons, if_pos hy]
    omega

theorem hasRun_singleton (x : Scalar) (c : Container) :
    hasRun [x] c.items = c.contains x := by
  rw [contains]
  induction c.items with
  | nil => rfl
  | cons y l ih => rw [hasRun, ih, List.any_cons, startsWith, startsWith, Bool.and_true]

end Container

/-! ## The operators -/

namespace BinaryOp

open Container

variable {op : String} {x : Scalar} {v w : Value} {c d : Container}

theorem unlessEitherNull_of_isNull_eq_false {f : Unit → Except Fault Value} (hv : v.isNull = false)
    (hw : w.isNull = false) : unlessEitherNull v w f = f () := by
  rw [unlessEitherNull, hv, hw]
  rfl

theorem apply_contains {store : Store} (hv : v.isNull = false) (hw : w.isNull = false) :
    contains.apply store v w = containsAll contains.name v w := by
  rw [apply, unlessEitherNull_of_isNull_eq_false hv hw]

theorem elementAndContainer_eq_ok (hv : v.container? = some c) (ht : c.baseType = x.baseType) :
    elementAndContainer op (.single x) v = .ok (x, c) := by
  have hc : containerOf op v = .ok c := by
    cases v with
    | multiple | ordered =>
      cases hv
      rfl
    | _ => cases hv
  rw [elementAndContainer, scalarOf, hc]
  simp only [bind, Except.bind, requireSameBaseType, ht]
  rfl

theorem containsAll_multiple (ht : c.baseType = d.baseType) :
    containsAll op (.multiple c) (.multiple d) = .ok (.ofBool (includes c.items d.items)) := by
  simp only [containsAll, Value.baseType?, requireSameBaseType, ht]
  rfl

theorem containsAll_ordered (ht : c.baseType = d.baseType) :
    containsAll op (.ordered c) (.ordered d) = .ok (.ofBool (hasRun d.items c.items)) := by
  simp only [containsAll, Value.baseType?, requireSameBaseType, ht]
  rfl

/-- A container contains the one of a single scalar when that is a member. -/
theorem containsAll_ofScalar (hv : v.container? = some c) (ht : c.baseType = x.baseType) :
    containsAll op v (rebuild v (.ofScalar x)) = .ok (.ofBool (c.contains x)) := by
  cases v with
  | multiple =>
    cases hv
    rw [← includes_singleton]
    exact containsAll_multiple ht
  | ordered =>
    cases hv
    rw [← hasRun_singleton]
    exact containsAll_ordered ht
  | _ => cases hv

/-- **The algebra of containers.** On operands that do not count as NULL and have one base type:
a multiset contains another without NaN when each scalar occurs in the other at most as often, and
a sequence contains another that is a run of it; a scalar is a member when it occurs, which is when
the container contains the one of that scalar alone; and what is deleted is the first element that
is the same. -/
theorem container_algebra (store : Store) :
    (∀ c d : Container, c.isEmpty = false → d.isEmpty = false → c.baseType = d.baseType →
      (∃ b, contains.apply store (.multiple c) (.multiple d) = .ok (.ofBool b) ∧
        (b = true ↔ (∀ s ∈ d.items, s.isNaN = false) ∧
          ∀ s, occurrences s d.items ≤ occurrences s c.items)) ∧
      ∃ b, contains.apply store (.ordered c) (.ordered d) = .ok (.ofBool b) ∧
        (b = true ↔ ∃ before run after, c.items = before ++ run ++ after ∧
          List.Forall₂ (fun y s => y.same s = true) run d.items)) ∧
    ∀ (x : Scalar) (v : Value) (c : Container), v.container? = some c →
      (Value.single x).isNull = false → v.isNull = false → c.baseType = x.baseType →
      (∃ b, member.apply store (.single x) v = .ok (.ofBool b) ∧
        (b = true ↔ 0 < occurrences x c.items)) ∧
      contains.apply store v (rebuild v (.ofScalar x)) = member.apply store (.single x) v ∧
      ∃ w d, delete.apply store (.single x) v = .ok w ∧ w.cardinality? = v.cardinality? ∧
        w.container? = some d ∧ Without x c d := by
  refine ⟨fun c d hc hd ht => ⟨⟨_, ?_, includes_iff⟩, ⟨_, ?_, hasRun_iff⟩⟩,
    fun x v c hv hx hnull ht => ?_⟩
  · rw [apply_contains (v := .multiple c) (w := .multiple d) hc hd, containsAll_multiple ht]
  · rw [apply_contains (v := .ordered c) (w := .ordered d) hc hd, containsAll_ordered ht]
  have hmember : member.apply store (.single x) v = .ok (.ofBool (c.contains x)) := by
    rw [apply, unlessEitherNull_of_isNull_eq_false hx hnull, elementAndContainer_eq_ok hv ht]
    rfl
  have hdelete : delete.apply store (.single x) v = .ok (rebuild v (c.erase x)) := by
    rw [apply, unlessEitherNull_of_isNull_eq_false hx hnull, elementAndContainer_eq_ok hv ht]
    rfl
  have hone : (rebuild v (.ofScalar x)).isNull = false := by
    cases v <;> rfl
  refine ⟨⟨_, hmember, contains_iff⟩, ?_, _, c.erase x, hdelete, ?_, ?_, without_erase c x⟩
  · rw [hmember, apply_contains hnull hone, containsAll_ofScalar hv ht]
  all_goals
    cases v with
    | multiple | ordered => rfl
    | _ => cases hv

/-- Three pairs, of which the first and the last are the same with their parts exchanged. -/
def threePairs : Container := ⟨.pair, [.pair "A" "B", .pair "C" "D", .pair "B" "A"], by decide⟩

/-- Three pairs that are all the same. -/
def equalPairs : Container := ⟨.pair, [.pair "A" "B", .pair "B" "A", .pair "A" "B"], by decide⟩

/-- A pair that occurs twice is left once after a deletion, and three of it are not contained. -/
theorem threePairs_algebra :
    (∃ w d, delete.apply .empty (.single (.pair "B" "A")) (.ordered threePairs) = .ok w ∧
      w.container? = some d ∧ occurrences (.pair "B" "A") d.items = 1) ∧
    contains.apply .empty (.multiple threePairs) (.multiple equalPairs) = .ok (.ofBool false) := by
  obtain ⟨hcontains, hremove⟩ := container_algebra .empty
  obtain ⟨-, -, w, d, hw, -, hd, hwithout⟩ :=
    hremove (.pair "B" "A") (.ordered threePairs) threePairs rfl rfl rfl rfl
  obtain ⟨⟨b, hb, hiff⟩, -⟩ := hcontains threePairs equalPairs rfl rfl rfl
  refine ⟨⟨w, d, hw, hd, hwithout.count_same.trans (by decide)⟩, ?_⟩
  cases b with
  | false => exact hb
  | true => exact absurd ((hiff.1 rfl).2 (.pair "A" "B")) (by decide)

end BinaryOp

end Assessment
