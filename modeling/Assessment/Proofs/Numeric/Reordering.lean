import Assessment.Numeric.Integer
import Mathlib.Algebra.BigOperators.Group.List.Lemmas
import Mathlib.Algebra.BigOperators.Ring.List
import Mathlib.Algebra.Order.BigOperators.Group.List
import Mathlib.Algebra.Order.Ring.Int
import Mathlib.Data.List.Perm.Subperm

/-!
# Sums and products in another order

A sum or a product of integers of 64 bits is built up from the first to the last, and there is none
as soon as one of the partial results does not fit. So two orders of the same integers can differ:
one may keep its partial results in range and the other not. When there is a result, it is the one
without bounds.

The folds are those of the arms sum and product of `eval_expr`; the operators themselves come into
play in `VariadicOp.apply_orderFree_iff`.

* `foldlM_eq_some_iff`: there is a result exactly when every initial segment has one that fits.
* `exists_order_add`, `exists_order_mul`: when the whole fits, the integers have an order with that
  result.
* `orderFree_iff`: no order makes a difference exactly when the whole does not fit, or every part
  does.
-/

namespace Assessment.Numeric

variable {op : Int → Int → Int} {acc r : Int64} {l m : List Int64}

/-- The result of an operation on two integers, when it fits. -/
def combine? (op : Int → Int → Int) (a b : Int64) : Option Int64 := fit? (op a.toInt b.toInt)

/-- The result of an operation along a list, without bounds. -/
def total (op : Int → Int → Int) (acc : Int) (l : List Int64) : Int :=
  l.foldl (fun n i => op n i.toInt) acc

theorem sumFrom?_eq_foldlM : ∀ (acc : Int64) (l : List Int64),
    sumFrom? acc l = l.foldlM (combine? (· + ·)) acc
  | _, [] => rfl
  | acc, v :: l => by
    rw [sumFrom?, List.foldlM_cons, funext fun s => sumFrom?_eq_foldlM s l]
    rfl

theorem productFrom?_eq_foldlM : ∀ (acc : Int64) (l : List Int64),
    productFrom? acc l = l.foldlM (combine? (· * ·)) acc
  | _, [] => rfl
  | acc, v :: l => by
    rw [productFrom?, List.foldlM_cons, funext fun s => productFrom?_eq_foldlM s l]
    rfl

/-- There is a result when all initial segments have one that fits, and it is the one without
bounds. -/
theorem foldlM_eq_some_iff : ∀ {l : List Int64} {acc : Int64},
    l.foldlM (combine? op) acc = some r ↔
      r.toInt = total op acc.toInt l ∧ ∀ p, p <+: l → (fit? (total op acc.toInt p)).isSome
  | [], acc => by
    rw [List.foldlM_nil]
    constructor
    · intro h
      cases h
      refine ⟨rfl, fun p hp => ?_⟩
      rw [List.prefix_nil.1 hp, total, List.foldl_nil, fit?_toInt]
      rfl
    · rintro ⟨h, -⟩
      exact congrArg some (Int64.toInt_inj.1 h.symm)
  | v :: l, acc => by
    rw [List.foldlM_cons]
    constructor
    · intro h
      obtain ⟨s, hs, h⟩ := Option.bind_eq_some_iff.1 h
      have hv : s.toInt = op acc.toInt v.toInt := (fit?_eq_some_iff _ _).1 hs
      obtain ⟨hr, hp⟩ := foldlM_eq_some_iff.1 h
      rw [hv] at hr hp
      refine ⟨hr, fun p hpre => ?_⟩
      rcases List.prefix_cons_iff.1 hpre with rfl | ⟨q, rfl, hq⟩
      · rw [total, List.foldl_nil, fit?_toInt]
        rfl
      · exact hp q hq
    · rintro ⟨hr, hp⟩
      obtain ⟨s, hs⟩ := Option.isSome_iff_exists.1 (hp [v] (List.prefix_cons_iff.2
        (.inr ⟨[], rfl, List.nil_prefix⟩)))
      have hv : s.toInt = op acc.toInt v.toInt := (fit?_eq_some_iff _ _).1 hs
      refine Option.bind_eq_some_iff.2 ⟨s, hs, foldlM_eq_some_iff.2 ?_⟩
      rw [hv]
      exact ⟨hr, fun p hpre => hp (v :: p) ((List.prefix_cons_inj v).2 hpre)⟩

theorem isSome_foldlM_iff :
    (l.foldlM (combine? op) acc).isSome ↔
      ∀ p, p <+: l → (fit? (total op acc.toInt p)).isSome := by
  constructor
  · intro h
    obtain ⟨r, hr⟩ := Option.isSome_iff_exists.1 h
    exact (foldlM_eq_some_iff.1 hr).2
  · intro h
    obtain ⟨r, hr⟩ := Option.isSome_iff_exists.1 (h l (List.prefix_refl l))
    exact Option.isSome_iff_exists.2 ⟨r, foldlM_eq_some_iff.2 ⟨(fit?_eq_some_iff _ _).1 hr, h⟩⟩

/-! ## What the order decides -/

/-- The whole does not depend on the order. -/
theorem total_of_perm (hop : ∀ a b c, op (op a b) c = op (op a c) b) (n : Int) (h : m.Perm l) :
    total op n m = total op n l := by
  have : RightCommutative fun (n : Int) (i : Int64) => op n i.toInt := ⟨fun a b c => hop a _ _⟩
  exact h.foldl_eq n

/-- **When no order makes a difference**: for integers with some order that gives their whole if it
fits, exactly when it does not fit, or every part of it does. -/
theorem orderFree_iff (hop : ∀ a b c, op (op a b) c = op (op a c) b)
    (hexists : (fit? (total op acc.toInt l)).isSome →
      ∃ m : List Int64, m.Perm l ∧ (m.foldlM (combine? op) acc).isSome) :
    (∀ m : List Int64, m.Perm l → m.foldlM (combine? op) acc = l.foldlM (combine? op) acc) ↔
      fit? (total op acc.toInt l) = none ∨
        ∀ part : List Int64, part.Subperm l → (fit? (total op acc.toInt part)).isSome := by
  constructor
  · intro hfree
    refine or_iff_not_imp_left.2 fun hfit part hpart => ?_
    obtain ⟨m, hm, hsome⟩ := hexists (Option.isSome_iff_ne_none.2 hfit)
    -- One order has a result, so every order has one: also the order that starts with the part.
    have hperm : (part ++ l.diff part).Perm l :=
      List.subperm_append_diff_self_of_count_le fun v _ => hpart.count_le v
    rw [hfree m hm, ← hfree _ hperm, isSome_foldlM_iff] at hsome
    exact hsome part (List.prefix_append ..)
  · rintro (hnone | hparts) m hm
    · have hall (k : List Int64) (hk : k.Perm l) : k.foldlM (combine? op) acc = none := by
        rw [← Option.not_isSome_iff_eq_none, isSome_foldlM_iff]
        intro hfit
        have := hfit k (List.prefix_refl k)
        rw [total_of_perm hop _ hk, hnone] at this
        cases this
      rw [hall m hm, hall l (.refl l)]
    · have hall (k : List Int64) (hk : k.Perm l) : (k.foldlM (combine? op) acc).isSome := by
        rw [isSome_foldlM_iff]
        exact fun p hp => hparts p (hp.sublist.subperm.trans hk.subperm)
      obtain ⟨r, hr⟩ := Option.isSome_iff_exists.1 (hall m hm)
      obtain ⟨s, hs⟩ := Option.isSome_iff_exists.1 (hall l (.refl l))
      have : r = s := by
        rw [← Int64.toInt_inj, (foldlM_eq_some_iff.1 hr).1, (foldlM_eq_some_iff.1 hs).1,
          total_of_perm hop _ hm]
      rw [hr, hs, this]

/-! ## Orders that give a result -/

/-- When an integer can always be chosen so that the result so far fits, some order gives a
result. -/
theorem exists_order (inv : Int64 → List Int64 → Prop)
    (next : ∀ acc l, l ≠ [] → inv acc l →
      ∃ v ∈ l, ∃ s, combine? op acc v = some s ∧ inv s (l.erase v)) :
    ∀ (n : Nat) (acc : Int64) (l : List Int64), l.length = n → inv acc l →
      ∃ m : List Int64, m.Perm l ∧ (m.foldlM (combine? op) acc).isSome
  | 0, acc, l, hn, _ => by
    rw [List.eq_nil_of_length_eq_zero hn]
    exact ⟨[], .refl _, rfl⟩
  | n + 1, acc, l, hn, h => by
    obtain ⟨v, hv, s, hs, h⟩ := next acc l (by rintro rfl; cases hn) h
    have hlen : (l.erase v).length = n := by
      rw [List.length_erase_of_mem hv, hn]
      rfl
    obtain ⟨m, hperm, hm⟩ := exists_order inv next n s (l.erase v) hlen h
    refine ⟨v :: m, (hperm.cons v).trans (List.perm_cons_erase hv).symm, ?_⟩
    rw [List.foldlM_cons, hs]
    exact hm

theorem toInt_mem_range (v : Int64) : -2 ^ 63 ≤ v.toInt ∧ v.toInt < 2 ^ 63 :=
  ⟨v.le_toInt, v.toInt_lt⟩

theorem fit?_isSome_iff_range (n : Int) : (fit? n).isSome ↔ -2 ^ 63 ≤ n ∧ n < 2 ^ 63 := by
  rw [fit?_isSome_iff]
  have hmin : Int64.minValue.toInt = -2 ^ 63 := by decide
  have hmax : Int64.maxValue.toInt = 2 ^ 63 - 1 := by decide
  omega

/-- The sum of a list of integers of 64 bits, without bounds. -/
def sumOf (l : List Int64) : Int := (l.map Int64.toInt).sum

/-- The product of a list of integers of 64 bits, without bounds. -/
def productOf (l : List Int64) : Int := (l.map Int64.toInt).prod

theorem sumOf_cons (v : Int64) (l : List Int64) : sumOf (v :: l) = v.toInt + sumOf l := by
  simp [sumOf]

theorem productOf_cons (v : Int64) (l : List Int64) :
    productOf (v :: l) = v.toInt * productOf l := by
  simp [productOf]

theorem total_add (n : Int) (l : List Int64) : total (· + ·) n l = n + sumOf l := by
  induction l generalizing n with
  | nil => simp [total, sumOf]
  | cons v l ih =>
    show total (· + ·) (n + v.toInt) l = n + sumOf (v :: l)
    rw [ih, sumOf_cons, Int.add_assoc]

theorem total_mul (n : Int) (l : List Int64) : total (· * ·) n l = n * productOf l := by
  induction l generalizing n with
  | nil => simp [total, productOf]
  | cons v l ih =>
    show total (· * ·) (n * v.toInt) l = n * productOf (v :: l)
    rw [ih, productOf_cons, Int.mul_assoc]

theorem total_zero (l : List Int64) : total (· + ·) (0 : Int64).toInt l = sumOf l :=
  (total_add _ l).trans (Int.zero_add _)

theorem total_one (l : List Int64) : total (· * ·) (1 : Int64).toInt l = productOf l :=
  (total_mul _ l).trans (Int.one_mul _)

theorem sumOf_eq_erase {v : Int64} (hv : v ∈ l) : sumOf l = v.toInt + sumOf (l.erase v) := by
  rw [← sumOf_cons, sumOf, sumOf, ((List.perm_cons_erase hv).map _).sum_eq]

theorem productOf_eq_erase {v : Int64} (hv : v ∈ l) :
    productOf l = v.toInt * productOf (l.erase v) := by
  rw [← productOf_cons, productOf, productOf, ((List.perm_cons_erase hv).map _).prod_eq]

theorem sumOf_nonneg (h : ∀ v ∈ l, 0 ≤ v.toInt) : 0 ≤ sumOf l :=
  List.sum_nonneg fun n hn => by
    obtain ⟨v, hv, rfl⟩ := List.mem_map.1 hn
    exact h v hv

theorem sumOf_nonpos (h : ∀ v ∈ l, v.toInt ≤ 0) : sumOf l ≤ 0 := by
  induction l with
  | nil => rfl
  | cons v l ih =>
    obtain ⟨hv, hl⟩ := List.forall_mem_cons.1 h
    rw [sumOf_cons]
    exact Int.add_nonpos hv (ih hl)

theorem productOf_eq_zero_iff : productOf l = 0 ↔ 0 ∈ l := by
  rw [productOf, List.prod_eq_zero_iff, List.mem_map]
  constructor
  · rintro ⟨v, hv, hzero⟩
    rwa [Int64.toInt_inj.1 (hzero.trans Int64.toInt_zero.symm)] at hv
  · exact fun h => ⟨0, h, rfl⟩

/-- A product without zeros and units is at least two. -/
theorem two_le_natAbs_productOf (h : ∀ v ∈ l, 2 ≤ v.toInt.natAbs) (hl : l ≠ []) :
    2 ≤ (productOf l).natAbs := by
  obtain ⟨v, hv⟩ := List.exists_mem_of_ne_nil l hl
  have hrest : productOf (l.erase v) ≠ 0 := fun hzero => by
    have := h 0 (List.mem_of_mem_erase (productOf_eq_zero_iff.1 hzero))
    cases this
  rw [productOf_eq_erase hv, Int.natAbs_mul]
  exact (h v hv).trans (Nat.le_mul_of_pos_right _ (Int.natAbs_pos.2 hrest))

/-- Integers whose sum fits can be summed: next comes one of the other sign than the sum so far, as
long as there is one. -/
theorem exists_order_add (h : (fit? (acc.toInt + sumOf l)).isSome) :
    ∃ m : List Int64, m.Perm l ∧ (m.foldlM (combine? (· + ·)) acc).isSome := by
  refine exists_order (fun acc l => (fit? (acc.toInt + sumOf l)).isSome) ?_ _ acc l rfl h
  intro acc l hl h
  -- It is enough to choose an integer whose sum with the one so far fits.
  suffices hv : ∃ v ∈ l, (fit? (acc.toInt + v.toInt)).isSome by
    obtain ⟨v, hv, hfit⟩ := hv
    obtain ⟨s, hs⟩ := Option.isSome_iff_exists.1 hfit
    refine ⟨v, hv, s, hs, ?_⟩
    rwa [(fit?_eq_some_iff _ _).1 hs, Int.add_assoc, ← sumOf_eq_erase hv]
  have hacc := toInt_mem_range acc
  simp only [fit?_isSome_iff_range] at h ⊢
  obtain ⟨v, hv⟩ := List.exists_mem_of_ne_nil l hl
  by_cases hsign : 0 ≤ acc.toInt
  · by_cases hneg : ∃ w ∈ l, w.toInt < 0
    · obtain ⟨w, hw, hlt⟩ := hneg
      exact ⟨w, hw, by have := toInt_mem_range w; omega⟩
    · push Not at hneg
      have hrest : 0 ≤ sumOf (l.erase v) := sumOf_nonneg fun w hw =>
        hneg w (List.mem_of_mem_erase hw)
      rw [sumOf_eq_erase hv] at h
      exact ⟨v, hv, by have := hneg v hv; omega⟩
  · by_cases hpos : ∃ w ∈ l, 0 ≤ w.toInt
    · obtain ⟨w, hw, hle⟩ := hpos
      exact ⟨w, hw, by have := toInt_mem_range w; omega⟩
    · push Not at hpos
      have hrest : sumOf (l.erase v) ≤ 0 := sumOf_nonpos fun w hw =>
        (hpos w (List.mem_of_mem_erase hw)).le
      rw [sumOf_eq_erase hv] at h
      exact ⟨v, hv, by have := hpos v hv; omega⟩

/-- Integers whose product fits can be multiplied: a zero comes first, then come the units; without
them every integer that still follows at least doubles the magnitude. -/
theorem exists_order_mul (h : (fit? (acc.toInt * productOf l)).isSome)
    (hacc : l = [] ∨ acc.toInt.natAbs < 2 ^ 63) :
    ∃ m : List Int64, m.Perm l ∧ (m.foldlM (combine? (· * ·)) acc).isSome := by
  refine exists_order (fun acc l => (fit? (acc.toInt * productOf l)).isSome ∧
    (l = [] ∨ acc.toInt.natAbs < 2 ^ 63)) ?_ _ acc l rfl ⟨h, hacc⟩
  rintro acc l hl ⟨h, hacc⟩
  replace hacc := hacc.resolve_left hl
  simp only [fit?_isSome_iff_range] at h
  -- It is enough to choose an integer that leaves a magnitude in range unless it is the last.
  suffices hv : ∃ v ∈ l, (fit? (acc.toInt * v.toInt)).isSome ∧
      (l.erase v = [] ∨ (acc.toInt * v.toInt).natAbs < 2 ^ 63) by
    obtain ⟨v, hv, hfit, hrest⟩ := hv
    obtain ⟨s, hs⟩ := Option.isSome_iff_exists.1 hfit
    refine ⟨v, hv, s, hs, ?_⟩
    rw [(fit?_eq_some_iff _ _).1 hs, Int.mul_assoc, ← productOf_eq_erase hv, fit?_isSome_iff_range]
    exact ⟨h, hrest⟩
  simp only [fit?_isSome_iff_range]
  by_cases hsmall : ∃ v ∈ l, v.toInt.natAbs < 2
  · obtain ⟨v, hv, hlt⟩ := hsmall
    have : (acc.toInt * v.toInt).natAbs < 2 ^ 63 := by
      rw [Int.natAbs_mul]
      exact (Nat.mul_le_mul_left _ (Nat.le_of_lt_succ hlt)).trans_lt (by omega)
    exact ⟨v, hv, by omega, .inr this⟩
  · push Not at hsmall
    obtain ⟨v, hv⟩ := List.exists_mem_of_ne_nil l hl
    refine ⟨v, hv, ?_⟩
    rw [productOf_eq_erase hv, ← Int.mul_assoc] at h
    by_cases hlast : l.erase v = []
    · rw [hlast] at h
      exact ⟨by simpa [productOf] using h, .inl hlast⟩
    · -- The rest at least doubles the magnitude, and the whole is in range.
      have hrest := two_le_natAbs_productOf (fun w hw => hsmall w (List.mem_of_mem_erase hw)) hlast
      have hle : (acc.toInt * v.toInt).natAbs * 2 ≤
          (acc.toInt * v.toInt * productOf (l.erase v)).natAbs := by
        rw [Int.natAbs_mul _ (productOf _)]
        exact Nat.mul_le_mul_left _ hrest
      exact ⟨by omega, .inr (by omega)⟩

end Assessment.Numeric
