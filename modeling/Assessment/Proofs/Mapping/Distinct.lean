import Assessment.Mapping
import Assessment.Proofs.Value.Equality
import Mathlib.Data.Fintype.Fin

/-!
# The distinct elements of a response

The elements that count are those that are not the same as an earlier one. What has been seen
matters only through what it covers: the scalars that are the same as one of it. So a copy of an
earlier element adds nothing, and how many elements of a kind count does not depend on the order of
the response. A NaN is the same as nothing, so that every NaN counts.

The code is `distinct_items`, which keeps an element when nothing kept so far equals it.

* `Mapping.distinctFrom_append`, `Mapping.distinctFrom_of_covered`: what further elements add.
* `Mapping.countP_distinctFrom_of_perm`: reordering keeps how many elements of a kind count.
* `Mapping.countP_distinctFrom`: these are as many as the places where one occurs first.
-/

namespace Assessment.Mapping

variable {seen seen' l m : List Scalar} {s x y : Scalar} {p : Scalar → Bool}

/-! ## What has been seen -/

/-- A scalar is the same as one that has been seen. -/
def Covered (seen : List Scalar) (x : Scalar) : Prop := ∃ y ∈ seen, y.same x = true

instance : Decidable (Covered seen x) :=
  inferInstanceAs (Decidable (∃ y ∈ seen, y.same x = true))

theorem not_covered_nil : ¬ Covered [] x := fun ⟨_, hy, _⟩ => List.not_mem_nil hy

theorem covered_append : Covered (seen ++ l) x ↔ Covered seen x ∨ Covered l x := by
  simp only [Covered, List.mem_append, or_and_right, exists_or]

theorem covered_cons : Covered (s :: l) x ↔ s.same x = true ∨ Covered l x := by
  simp only [Covered, List.exists_mem_cons_iff]

theorem covered_singleton : Covered [s] x ↔ s.same x = true := by
  rw [covered_cons, or_iff_left not_covered_nil]

/-- What is the same as a covered scalar is covered. -/
theorem Covered.trans (h : Covered seen x) (hxy : x.same y = true) : Covered seen y :=
  let ⟨z, hz, hzx⟩ := h
  ⟨z, hz, Scalar.same_trans hzx hxy⟩

/-- A covered scalar covers nothing more. -/
theorem Covered.append_cons_iff (h : Covered seen s) :
    Covered (seen ++ s :: l) x ↔ Covered (seen ++ l) x := by
  rw [covered_append, covered_append, covered_cons, ← or_assoc, or_iff_left_of_imp h.trans]

theorem distinctFrom_cons_of_covered (h : Covered seen s) :
    distinctFrom seen (s :: l) = distinctFrom seen l := by
  rw [distinctFrom, if_pos (List.any_eq_true.2 h)]

theorem distinctFrom_cons_of_not_covered (h : ¬ Covered seen s) :
    distinctFrom seen (s :: l) = s :: distinctFrom (seen ++ [s]) l := by
  rw [distinctFrom, if_neg fun hs => h (List.any_eq_true.1 hs)]

/-- Which elements count depends on what has been seen through what that covers. -/
theorem distinctFrom_congr (h : ∀ x, Covered seen x ↔ Covered seen' x) :
    distinctFrom seen l = distinctFrom seen' l := by
  induction l generalizing seen seen' with
  | nil => rfl
  | cons s l ih =>
    by_cases hs : Covered seen s
    · rw [distinctFrom_cons_of_covered hs, distinctFrom_cons_of_covered ((h s).1 hs), ih h]
    · rw [distinctFrom_cons_of_not_covered hs,
        distinctFrom_cons_of_not_covered fun hs' => hs ((h s).2 hs')]
      exact congrArg (s :: ·) (ih fun x => by rw [covered_append, covered_append, h])

theorem distinctFrom_append :
    distinctFrom seen (l ++ m) = distinctFrom seen l ++ distinctFrom (seen ++ l) m := by
  induction l generalizing seen with
  | nil => rw [List.nil_append, List.append_nil, distinctFrom, List.nil_append]
  | cons s l ih =>
    rw [List.cons_append]
    by_cases hs : Covered seen s
    · rw [distinctFrom_cons_of_covered hs, distinctFrom_cons_of_covered hs, ih]
      exact congrArg (distinctFrom seen l ++ ·)
        (distinctFrom_congr fun _ => hs.append_cons_iff.symm)
    · rw [distinctFrom_cons_of_not_covered hs, distinctFrom_cons_of_not_covered hs, ih,
        List.append_assoc, List.singleton_append, List.cons_append]

/-- Copies of what has been seen do not count. -/
theorem distinctFrom_of_covered (h : ∀ x ∈ l, Covered seen x) : distinctFrom seen l = [] := by
  induction l with
  | nil => rfl
  | cons s l ih =>
    obtain ⟨hs, hl⟩ := List.forall_mem_cons.1 h
    rw [distinctFrom_cons_of_covered hs, ih hl]

/-! ## The elements that count -/

theorem mem_of_mem_distinctFrom (h : x ∈ distinctFrom seen l) : x ∈ l := by
  induction l generalizing seen with
  | nil => exact h
  | cons s l ih =>
    by_cases hs : Covered seen s
    · rw [distinctFrom_cons_of_covered hs] at h
      exact List.mem_cons_of_mem s (ih h)
    · rw [distinctFrom_cons_of_not_covered hs] at h
      rcases List.mem_cons.1 h with rfl | h
      · exact List.mem_cons_self
      · exact List.mem_cons_of_mem s (ih h)

/-- An element counts unless one that has been seen or that counts covers it. -/
theorem mem_distinctFrom_or_covered (h : x ∈ l) :
    x ∈ distinctFrom seen l ∨ Covered (seen ++ distinctFrom seen l) x := by
  induction l generalizing seen with
  | nil => exact absurd h List.not_mem_nil
  | cons s l ih =>
    by_cases hs : Covered seen s
    · rw [distinctFrom_cons_of_covered hs]
      rcases List.mem_cons.1 h with rfl | h
      · exact .inr (covered_append.2 (.inl hs))
      · exact ih h
    · rw [distinctFrom_cons_of_not_covered hs]
      rcases List.mem_cons.1 h with rfl | h
      · exact .inl List.mem_cons_self
      · have hx : x ∈ distinctFrom (seen ++ [s]) l ∨
            Covered (seen ++ [s] ++ distinctFrom (seen ++ [s]) l) x := ih h
        rw [List.append_assoc, List.singleton_append] at hx
        exact hx.imp_left (List.mem_cons_of_mem s)

/-- What holds of one of two scalars that are the same and then of the other, holds of an element
exactly when it holds of one that counts. -/
theorem exists_mem_distinctFrom_iff {P : Scalar → Prop}
    (hP : ∀ x y : Scalar, x.same y = true → (P x ↔ P y)) :
    (∃ x ∈ distinctFrom [] l, P x) ↔ ∃ x ∈ l, P x := by
  constructor
  · rintro ⟨x, hx, hPx⟩
    exact ⟨x, mem_of_mem_distinctFrom hx, hPx⟩
  · rintro ⟨x, hx, hPx⟩
    rcases mem_distinctFrom_or_covered hx with hx | ⟨y, hy, hyx⟩
    · exact ⟨x, hx, hPx⟩
    · exact ⟨y, hy, (hP y x hyx).2 hPx⟩

/-! ## Counting them -/

/-- A further element counts when it has not been covered, and is seen from then on. -/
theorem countP_distinctFrom_cons (p : Scalar → Bool) (seen : List Scalar) (s : Scalar)
    (l : List Scalar) :
    (distinctFrom seen (s :: l)).countP p =
      (distinctFrom (seen ++ [s]) l).countP p +
        if p s = true ∧ ¬ Covered seen s then 1 else 0 := by
  by_cases hs : Covered seen s
  · rw [distinctFrom_cons_of_covered hs, if_neg fun h => h.2 hs, Nat.add_zero]
    refine congrArg (List.countP p) (distinctFrom_congr fun x => ?_)
    rw [hs.append_cons_iff, List.append_nil]
  · rw [distinctFrom_cons_of_not_covered hs, List.countP_cons]
    simp only [hs, not_false_iff, and_true]

/-- **Reordering** a list keeps how many elements of a kind count. -/
theorem countP_distinctFrom_of_perm (hp : ∀ x y : Scalar, x.same y = true → p x = p y)
    (h : l.Perm m) (seen : List Scalar) :
    (distinctFrom seen l).countP p = (distinctFrom seen m).countP p := by
  induction h generalizing seen with
  | nil => rfl
  | cons s _ ih => rw [countP_distinctFrom_cons, countP_distinctFrom_cons, ih]
  | swap a b l =>
    have hrest : distinctFrom (seen ++ [b] ++ [a]) l = distinctFrom (seen ++ [a] ++ [b]) l :=
      distinctFrom_congr fun x => by simp only [covered_append, or_right_comm]
    rw [countP_distinctFrom_cons, countP_distinctFrom_cons, countP_distinctFrom_cons,
      countP_distinctFrom_cons, hrest, Nat.add_assoc, Nat.add_assoc]
    refine congrArg (List.countP p (distinctFrom (seen ++ [a] ++ [b]) l) + ·) ?_
    simp only [covered_append, covered_singleton]
    by_cases hab : a.same b = true
    · -- Of two that are the same the first counts, whichever it is.
      have hba : b.same a = true := Scalar.same_comm a b ▸ hab
      have hcovered : Covered seen a ↔ Covered seen b := ⟨(·.trans hab), (·.trans hba)⟩
      simp only [hab, hba, hcovered, hp a b hab, or_true, not_true, and_false, if_false,
        Nat.zero_add]
    · have hba : ¬ b.same a = true := Scalar.same_comm a b ▸ hab
      simp only [hab, hba, Bool.false_eq_true, or_false, Nat.add_comm]
  | trans _ _ ih₁ ih₂ => rw [ih₁, ih₂]

/-! ## Places -/

/-- A place of a list holds a scalar that is not the same as one at an earlier place. -/
def IsNew (l : List Scalar) (i : Fin l.length) : Prop := ∀ j < i, l[j].same l[i] = false

instance (l : List Scalar) (i : Fin l.length) : Decidable (IsNew l i) :=
  inferInstanceAs (Decidable (∀ j < i, l[j].same l[i] = false))

theorem isNew_zero : IsNew (s :: l) 0 := fun j hj => absurd hj (Fin.not_lt_zero j)

theorem isNew_succ (i : Fin l.length) :
    IsNew (s :: l) i.succ ↔ s.same l[i] = false ∧ IsNew l i := by
  constructor
  · intro h
    exact ⟨h 0 i.succ_pos, fun j hj => h j.succ (Fin.succ_lt_succ_iff.2 hj)⟩
  · rintro ⟨hs, h⟩ j hj
    cases j using Fin.cases with
    | zero => exact hs
    | succ j => exact h j (Fin.succ_lt_succ_iff.1 hj)

/-- **Places.** The elements of a kind that count are as many as the places of the list where one
is new and has not been seen before. -/
theorem countP_distinctFrom (p : Scalar → Bool) (seen l : List Scalar) :
    (distinctFrom seen l).countP p =
      (Finset.univ.filter fun i : Fin l.length =>
        (p l[i] = true ∧ ¬ Covered seen l[i]) ∧ IsNew l i).card := by
  induction l generalizing seen with
  | nil => rfl
  | cons s l ih =>
    have hsucc : ∀ i : Fin l.length,
        ((p l[i] = true ∧ ¬ Covered (seen ++ [s]) l[i]) ∧ IsNew l i) ↔
          (p l[i] = true ∧ ¬ Covered seen l[i]) ∧ IsNew (s :: l) i.succ := by
      intro i
      rw [isNew_succ, covered_append, covered_singleton, not_or, Bool.not_eq_true, and_assoc,
        and_assoc, and_assoc]
    calc (distinctFrom seen (s :: l)).countP p
        = (if p s = true ∧ ¬ Covered seen s then 1 else 0) +
            (Finset.univ.filter fun i : Fin l.length =>
              (p l[i] = true ∧ ¬ Covered (seen ++ [s]) l[i]) ∧ IsNew l i).card := by
          rw [countP_distinctFrom_cons, ih, Nat.add_comm]
      _ = (if (p s = true ∧ ¬ Covered seen s) ∧ IsNew (s :: l) 0 then 1 else 0) +
            (Finset.univ.filter fun i : Fin l.length =>
              (p l[i] = true ∧ ¬ Covered seen l[i]) ∧ IsNew (s :: l) i.succ).card := by
          simp only [hsucc, isNew_zero, and_true]
      _ = _ := (Fin.card_filter_univ_succ' fun i : Fin (l.length + 1) =>
          (p (s :: l)[i] = true ∧ ¬ Covered seen (s :: l)[i]) ∧ IsNew (s :: l) i).symm

end Assessment.Mapping
