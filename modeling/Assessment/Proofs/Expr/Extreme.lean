import Assessment.Proofs.Expr.Comparison
import Assessment.Proofs.Expr.Reordering

/-!
# The greatest and the least number

The scan for the greatest number keeps the best so far, and lets a later number take over when it
compares as greater. Comparing is not transitive (`BinaryOp.weak_comparisons_not_transitive`), so
there may be no number that the others all compare as at most, and which number the scan ends with
depends on the order. Its double does not: whichever of two numbers is kept, its double is not below
that of the other. Among integers alone the same holds of the integers themselves. The scan for the
least number is the same the other way round.

The code is the arms max and min of `eval_expr`, one loop over the numbers of all operands,
containers included (`numbers`).

* `Number.KeepsOrder`: a key of numbers that goes up where the numbers do.
* `Number.asFar_bestFrom`: what the scan keeps is as far as all numbers in every such key.
* `Extreme`: a value that is attained and a bound; `Extreme.same_of_perm`: there is only one.
* `VariadicOp.apply_extreme`: `max` and `min` give it, in any order and any grouping of the numbers.
-/

namespace Assessment

open Numeric

/-! ## Bounds in a direction -/

section AsFar

variable {α : Type} {want : Ordering} {a b c : α}

/-- One is as far as another: not below it for `gt`, not above it for `lt`, level for `eq`. -/
def AsFar [LE α] (want : Ordering) (a b : α) : Prop :=
  match want with
  | .gt => b ≤ a
  | .lt => a ≤ b
  | .eq => b ≤ a ∧ a ≤ b

theorem asFar_refl [Preorder α] (want : Ordering) (a : α) : AsFar want a a := by
  cases want
  case eq => exact ⟨le_rfl, le_rfl⟩
  all_goals exact le_refl a

theorem AsFar.trans [Preorder α] (hab : AsFar want a b) (hbc : AsFar want b c) :
    AsFar want a c := by
  cases want with
  | gt => exact le_trans (α := α) hbc hab
  | lt => exact le_trans (α := α) hab hbc
  | eq => exact ⟨hbc.1.trans hab.1, hab.2.trans hbc.2⟩

theorem AsFar.antisymm [PartialOrder α] (hab : AsFar want a b) (hba : AsFar want b a) : a = b := by
  cases want with
  | gt => exact le_antisymm (α := α) hba hab
  | lt => exact le_antisymm (α := α) hab hba
  | eq => exact le_antisymm hab.2 hab.1

/-- Doubles are as far as one another when their ranks are. -/
theorem asFar_float_iff {x y : Float} (hx : x.isNaN = false) (hy : y.isNaN = false) :
    AsFar want x y ↔ AsFar want (rank x) (rank y) := by
  have hle {x y : Float} (hx : x.isNaN = false) (hy : y.isNaN = false) :
      x ≤ y ↔ rank x ≤ rank y := by
    rw [float_le_iff, and_iff_right hx, and_iff_right hy]
  cases want with
  | gt => exact hle hy hx
  | lt => exact hle hx hy
  | eq => exact and_congr (hle hy hx) (hle hx hy)

end AsFar

/-! ## The scan -/

namespace Number

variable {α : Type} [Preorder α] {key : Number → α} {want : Ordering} {a b best : Number}
  {ns ms : List Number}

/-- A key that goes up where the numbers of a list do. -/
def KeepsOrder (key : Number → α) (ns : List Number) : Prop :=
  ∀ a ∈ ns, ∀ b ∈ ns, order a b ≠ .gt → key a ≤ key b

theorem keepsOrder_rank (ns : List Number) : KeepsOrder rank ns :=
  fun _ _ _ _ => rank_le_of_order_ne_gt

/-- The integer of a number, zero for a float. -/
def whole : Number → Int
  | integer n => n.toInt
  | float _ => 0

theorem keepsOrder_whole (l : List Int64) : KeepsOrder whole (l.map integer) := by
  intro a ha b hb h
  obtain ⟨i, -, rfl⟩ := List.mem_map.1 ha
  obtain ⟨j, -, rfl⟩ := List.mem_map.1 hb
  exact compare_le_iff_le.1 h

theorem KeepsOrder.subset (h : KeepsOrder key ns) (hsub : ms ⊆ ns) : KeepsOrder key ms :=
  fun a ha b hb => h a (hsub ha) b (hsub hb)

/-- The one of two numbers that the scan keeps. -/
def keep (want : Ordering) (best n : Number) : Number :=
  if n.compare? best = some want then n else best

theorem cons_keep_subset (want : Ordering) (best n : Number) (ns : List Number) :
    keep want best n :: ns ⊆ best :: n :: ns := by
  rw [keep]
  split <;> simp

/-- A number that another does not beat is as far as it, in a key that keeps the order. -/
theorem asFar_of_order_ne (hwant : want ≠ .eq) (hkey : KeepsOrder key ns) (ha : a ∈ ns)
    (hb : b ∈ ns) (h : order b a ≠ want) : AsFar want (key a) (key b) := by
  cases want with
  | gt => exact hkey b hb a ha h
  | lt =>
    refine hkey a ha b hb fun hgt => h ?_
    rw [← order_swap, hgt]
    rfl
  | eq => exact absurd rfl hwant

/-- **One step of the scan**: what is kept is as far as both numbers. -/
theorem asFar_keep (hwant : want ≠ .eq) (hfin : ∀ n ∈ ns, n.Finite) (hkey : KeepsOrder key ns)
    (ha : a ∈ ns) (hb : b ∈ ns) :
    AsFar want (key (keep want a b)) (key a) ∧ AsFar want (key (keep want a b)) (key b) := by
  rw [keep, compare?_eq (hfin b hb) (hfin a ha)]
  split
  case isTrue h =>
    rw [Option.some.injEq] at h
    refine ⟨asFar_of_order_ne hwant hkey hb ha ?_, asFar_refl want _⟩
    rw [← order_swap, h]
    cases want <;> first | exact absurd rfl hwant | decide
  case isFalse h =>
    exact ⟨asFar_refl want _, asFar_of_order_ne hwant hkey ha hb fun heq => h (congrArg some heq)⟩

theorem bestFrom_cons (want : Ordering) (best n : Number) (ns : List Number) :
    bestFrom want best (n :: ns) = bestFrom want (keep want best n) ns := rfl

/-- The scan ends with one of the numbers. -/
theorem bestFrom_mem (want : Ordering) (best : Number) (ns : List Number) :
    bestFrom want best ns ∈ best :: ns := by
  induction ns generalizing best with
  | nil => exact List.mem_singleton_self best
  | cons n ns ih => exact cons_keep_subset want best n ns (ih (keep want best n))

/-- **The scan**: what it ends with is as far as every number, in a key that keeps the order. -/
theorem asFar_bestFrom (hwant : want ≠ .eq) (hfin : ∀ n ∈ best :: ns, n.Finite)
    (hkey : KeepsOrder key (best :: ns)) :
    ∀ n ∈ best :: ns, AsFar want (key (bestFrom want best ns)) (key n) := by
  induction ns generalizing best with
  | nil =>
    intro n hn
    cases List.mem_singleton.1 hn
    exact asFar_refl want _
  | cons m ns ih =>
    obtain ⟨hbest, hm⟩ := asFar_keep hwant hfin hkey (a := best) (b := m) (by simp) (by simp)
    have hsub := cons_keep_subset want best m ns
    have hrest := ih (fun n hn => hfin n (hsub hn)) (hkey.subset hsub)
    have hkept := hrest _ List.mem_cons_self
    intro n hn
    rw [bestFrom_cons]
    rcases List.mem_cons.1 hn with rfl | hn
    · exact hkept.trans hbest
    rcases List.mem_cons.1 hn with rfl | hn
    · exact hkept.trans hm
    · exact hrest n (List.mem_cons_of_mem _ hn)

/-- Numbers are all integers, or there is a float among them. -/
theorem eq_map_integer_or_float_mem :
    ∀ ns : List Number, (∃ l : List Int64, ns = l.map integer) ∨ ∃ x, float x ∈ ns
  | [] => .inl ⟨[], rfl⟩
  | float x :: _ => .inr ⟨x, List.mem_cons_self⟩
  | integer n :: ns => by
    rcases eq_map_integer_or_float_mem ns with ⟨l, rfl⟩ | ⟨x, hx⟩
    · exact .inl ⟨n :: l, rfl⟩
    · exact .inr ⟨x, List.mem_cons_of_mem _ hx⟩

theorem allIntegers?_of_float_mem {x : Float} (h : float x ∈ ns) : allIntegers? ns = none := by
  induction ns with
  | nil => cases h
  | cons n ns ih =>
    rw [allIntegers?] at ih ⊢
    rw [List.mapM_cons]
    cases n with
    | float y => rfl
    | integer i =>
      rcases List.mem_cons.1 h with h | h
      · cases h
      · rw [ih h]
        rfl

end Number

/-! ## The result -/

/-- A value is the extreme of numbers: of integers alone one of them, and of others the double of
one, that is as far as each of them. -/
structure Extreme (want : Ordering) (ns : List Number) (r : Value) : Prop where
  ofIntegers : ∀ l : List Int64, ns = l.map .integer →
    ∃ i ∈ l, r = .ofInt64 i ∧ ∀ j ∈ l, AsFar want i.toInt j.toInt
  ofFloats : ∀ x, .float x ∈ ns →
    ∃ n ∈ ns, r = .single (.float n.toFloat) ∧ ∀ m ∈ ns, AsFar want n.toFloat m.toFloat

variable {want : Ordering} {ns ms : List Number} {r s : Value}

/-- **One extreme**, whatever the order of the numbers. -/
theorem Extreme.same_of_perm (hfin : ∀ n ∈ ns, n.Finite) (hr : Extreme want ns r)
    (hs : Extreme want ms s) (hperm : ms.Perm ns) : r.same s = true := by
  rcases Number.eq_map_integer_or_float_mem ns with ⟨l, rfl⟩ | ⟨x, hx⟩
  · obtain ⟨k, rfl⟩ : ∃ k : List Int64, ms = k.map .integer := by
      refine (Number.eq_map_integer_or_float_mem ms).resolve_right ?_
      rintro ⟨x, hx⟩
      obtain ⟨i, -, h⟩ := List.mem_map.1 (hperm.mem_iff.1 hx)
      cases h
    have hmem (i : Int64) : i ∈ k ↔ i ∈ l := by
      have hinj : Function.Injective Number.integer := fun _ _ => Number.integer.inj
      rw [← List.mem_map_of_injective hinj, hperm.mem_iff, List.mem_map_of_injective hinj]
    obtain ⟨i, hi, rfl, hfar⟩ := hr.ofIntegers l rfl
    obtain ⟨j, hj, rfl, hfar'⟩ := hs.ofIntegers k rfl
    have heq : i.toInt = j.toInt :=
      (hfar j ((hmem j).1 hj)).antisymm (hfar' i ((hmem i).2 hi))
    cases Int64.toInt_inj.1 heq
    exact beq_self_eq_true i
  · obtain ⟨n, hn, rfl, hfar⟩ := hr.ofFloats x hx
    obtain ⟨m, hm, rfl, hfar'⟩ := hs.ofFloats x (hperm.mem_iff.2 hx)
    have hm' := hperm.mem_iff.1 hm
    have hnan (a : Number) (ha : a ∈ ns) := float_isNaN_of_isFinite (hfin a ha)
    have hnm := (asFar_float_iff (hnan n hn) (hnan m hm')).1 (hfar m hm')
    have hmn := (asFar_float_iff (hnan m hm') (hnan n hn)).1 (hfar' n (hperm.mem_iff.2 hn))
    exact float_beq_iff.2 ⟨hnan n hn, hnan m hm', hnm.antisymm hmn⟩

/-- The scan gives the extreme. -/
theorem extreme_extremeNumber (hwant : want ≠ .eq) (hne : ns ≠ []) (hfin : ∀ n ∈ ns, n.Finite) :
    Extreme want ns (extremeNumber want ns) := by
  obtain ⟨first, rest, rfl⟩ := List.exists_cons_of_ne_nil hne
  have hmem := Number.bestFrom_mem want first rest
  constructor
  · intro l hl
    have hfar := Number.asFar_bestFrom hwant hfin (hl ▸ Number.keepsOrder_whole l)
    obtain ⟨i, hi, hbest⟩ := List.mem_map.1 (hl ▸ hmem)
    refine ⟨i, hi, ?_, fun j hj => ?_⟩
    · rw [extremeNumber, ← hbest, hl, VariadicOp.allIntegers?_map]
      rfl
    · have hj' : Number.integer j ∈ first :: rest := hl ▸ List.mem_map_of_mem hj
      have hfar := hfar _ hj'
      rw [← hbest] at hfar
      exact hfar
  · intro x hx
    have hfar := Number.asFar_bestFrom hwant hfin (Number.keepsOrder_rank _)
    refine ⟨_, hmem, ?_, fun m hm => ?_⟩
    · have hfloat : Value.ofFloat (bestFrom want first rest).toFloat =
          .single (.float (bestFrom want first rest).toFloat) := if_pos (hfin _ hmem)
      rw [extremeNumber, Number.allIntegers?_of_float_mem hx, ← hfloat]
      cases bestFrom want first rest <;> rfl
    · exact (asFar_float_iff (float_isNaN_of_isFinite (hfin _ hmem))
        (float_isNaN_of_isFinite (hfin m hm))).2 (hfar m hm)

/-! ## Operands -/

/-- Operands hold numbers, in single values and containers: none of them counts as NULL. -/
structure NumericOperands (vs : List Value) (ns : List Number) : Prop where
  nonempty : vs ≠ []
  notNull : ∀ v ∈ vs, v.isNull = false
  notRecord : ∀ v ∈ vs, ∀ fields, v ≠ .record fields
  scalars : vs.flatMap Value.scalars = ns.map Number.toScalar

namespace NumericOperands

variable {vs : List Value} {name : String}

theorem numbersOfScalars_toScalar (name : String) (ns : List Number) :
    numbersOfScalars name (ns.map Number.toScalar) = .ok ns := by
  induction ns with
  | nil => rfl
  | cons n ns ih =>
    rw [List.map_cons, numbersOfScalars, ih]
    cases n <;> rfl

theorem numbersOfValue_eq {v : Value} (hnull : v.isNull = false)
    (hrecord : ∀ fields, v ≠ .record fields) (h : v.scalars = ns.map Number.toScalar) :
    numbersOfValue name v = .ok ns := by
  cases v with
  | null => cases hnull
  | record fields => exact absurd rfl (hrecord fields)
  | single s =>
    rw [numbersOfValue, ← numbersOfScalars_toScalar name ns, ← h, Value.scalars]
  | multiple c | ordered c =>
    rw [numbersOfValue, ← numbersOfScalars_toScalar name ns, ← h, Value.scalars]

theorem numbersOfValues_eq (hnull : ∀ v ∈ vs, v.isNull = false)
    (hrecord : ∀ v ∈ vs, ∀ fields, v ≠ .record fields)
    (h : vs.flatMap Value.scalars = ns.map Number.toScalar) :
    numbersOfValues name vs = .ok ns := by
  induction vs generalizing ns with
  | nil =>
    rw [numbersOfValues, List.map_eq_nil_iff.1 h.symm]
  | cons v vs ih =>
    rw [List.flatMap_cons] at h
    obtain ⟨ms, ks, rfl, hv, hvs⟩ := List.map_eq_append_iff.1 h.symm
    obtain ⟨hnull, hnulls⟩ := List.forall_mem_cons.1 hnull
    obtain ⟨hrecord, hrecords⟩ := List.forall_mem_cons.1 hrecord
    rw [numbersOfValues, numbersOfValue_eq hnull hrecord hv.symm, ih hnulls hrecords hvs.symm]
    rfl

theorem numbersOf_eq (h : NumericOperands vs ns) (name : String) :
    numbersOf name vs = .ok (some ns) := by
  have hnull : (vs.isEmpty || vs.any Value.isNull) = false := by
    rw [Bool.or_eq_false_iff, List.isEmpty_eq_false_iff, List.any_eq_false]
    exact ⟨h.nonempty, fun v hv => Bool.not_eq_true _ ▸ h.notNull v hv⟩
  rw [numbersOf, hnull, numbersOfValues_eq h.notNull h.notRecord h.scalars]
  rfl

theorem ne_nil (h : NumericOperands vs ns) : ns ≠ [] := by
  rintro rfl
  obtain ⟨v, rest, rfl⟩ := List.exists_cons_of_ne_nil h.nonempty
  have hv : v.scalars = [] := List.flatMap_eq_nil_iff.1 h.scalars v List.mem_cons_self
  have hnull := h.notNull v List.mem_cons_self
  cases v with
  | null => cases hnull
  | single s => cases hv
  | multiple c | ordered c =>
    rw [Value.isNull, Container.isEmpty, show c.items = [] from hv] at hnull
    cases hnull
  | record fields => exact h.notRecord _ List.mem_cons_self fields rfl

end NumericOperands

namespace VariadicOp

variable {op : VariadicOp} {vs ws : List Value}

/-- The direction in which an operator looks among its numbers. -/
def direction? : VariadicOp → Option Ordering
  | max => some .gt
  | min => some .lt
  | _ => none

theorem apply_eq_extremeNumber (hop : op.direction? = some want) (h : NumericOperands vs ns) :
    op.apply vs = .ok (extremeNumber want ns) := by
  cases op <;> cases hop
  all_goals
    rw [apply, onAllNumbers, h.numbersOf_eq]
    rfl

/-- **The greatest and the least.** Operands that hold integers and finite floats have a greatest
and a least: the exact one of integers alone, else a float, the double of one of the numbers that no
double of another is beyond. The same numbers in another order, and grouped into other operands,
have the same. -/
theorem apply_extreme (hop : op.direction? = some want) (h : NumericOperands vs ns)
    (hfin : ∀ n ∈ ns, n.Finite) :
    ∃ r, op.apply vs = .ok r ∧ Extreme want ns r ∧
      ∀ ws ms, NumericOperands ws ms → ms.Perm ns → ∃ s, op.apply ws = .ok s ∧ r.same s = true := by
  have hwant : want ≠ .eq := by
    rintro rfl
    cases op <;> cases hop
  have hextreme := extreme_extremeNumber hwant h.ne_nil hfin
  refine ⟨_, apply_eq_extremeNumber hop h, hextreme, fun ws ms hws hperm => ?_⟩
  refine ⟨_, apply_eq_extremeNumber hop hws, hextreme.same_of_perm hfin ?_ hperm⟩
  exact extreme_extremeNumber hwant hws.ne_nil fun n hn => hfin n (hperm.mem_iff.1 hn)

/-- Two to the power 53 and the next integer, which have one double, together with this double: in
any order and grouping the double is their greatest. -/
theorem apply_extreme_blurred :
    (max.direction? = some .gt ∧
      NumericOperands [.multiple (.ofIntegers [9007199254740992, 9007199254740993]),
          .single (.float 9007199254740992.0)]
        [.integer 9007199254740992, .integer 9007199254740993, .float 9007199254740992.0] ∧
      ∀ n ∈ [.integer 9007199254740992, .integer 9007199254740993, .float 9007199254740992.0],
        Number.Finite n) ∧
    ∀ ws ms, NumericOperands ws ms →
      ms.Perm
        [.integer 9007199254740992, .integer 9007199254740993, .float 9007199254740992.0] →
      ∃ s, max.apply ws = .ok s ∧
        (Value.single (.float 9007199254740992.0)).same s = true := by
  have hmax : max.direction? = some .gt := rfl
  have hoperands : NumericOperands [.multiple (.ofIntegers [9007199254740992, 9007199254740993]),
      .single (.float 9007199254740992.0)]
      [.integer 9007199254740992, .integer 9007199254740993, .float 9007199254740992.0] :=
    ⟨by decide, by decide, by simp, rfl⟩
  have hfin : ∀ n ∈ [.integer 9007199254740992, .integer 9007199254740993,
      .float 9007199254740992.0], Number.Finite n := by decide
  obtain ⟨r, hr, -, hfree⟩ := apply_extreme hmax hoperands hfin
  have hgreatest : max.apply [.multiple (.ofIntegers [9007199254740992, 9007199254740993]),
      .single (.float 9007199254740992.0)] = .ok (.single (.float 9007199254740992.0)) := by
    decide
  cases hr.symm.trans hgreatest
  exact ⟨⟨hmax, hoperands, hfin⟩, hfree⟩

end VariadicOp

end Assessment
