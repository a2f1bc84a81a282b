import Assessment.Proofs.Expr.Computation
import Assessment.Proofs.Numeric.Division

/-!
# Random choices

A random integer is the least one plus a number of steps, and a random element of a container the
one at a place: both ask the source once, for an integer from zero to some last one. What a source
may answer leads to all the values there are to choose from, and to no other.

The code is the arms randomInteger and random of `eval_expr`. The first goes through a checked
difference, a division, a draw, a checked product and a checked sum; each of the checked steps could
make the result NULL, and none does once the ends are in order and their difference fits. What a
source answers is a parameter, asked only to keep within the range (`RandomSource`).

* `RandomSource.KeepsRange`: what is asked of a source; both kinds of source keep to it.
* `Choice`: a last number and the value of each number up to it, which cover a set of values.
* `exists_choice_gridBetween`: the integers of a grid, none of which is beyond 64 bits.
* `Expr.exists_choice_randomInteger`, `Expr.exists_choice_random`: the one draw of each operator;
  `Expr.eval_choice` puts them together, with what `randomInteger` gives without a draw.
-/

namespace Assessment

open Numeric

/-! ## Draws from zero on -/

/-- The integers from zero to a last one. -/
def drawRange (last : Int64) : Set Int64 := {k | 0 ≤ k.toInt ∧ k.toInt ≤ last.toInt}

/-- A source draws integers from zero on within their range. -/
def RandomSource.KeepsRange {σ : Type} (source : RandomSource σ) : Prop :=
  ∀ (last : Int64) (s : σ), 0 ≤ last.toInt → (source.integer 0 last s).1 ∈ drawRange last

theorem keepsRange_scripted : RandomSource.scripted.KeepsRange :=
  fun last script h => RandomSource.scripted_integer_mem 0 last script h

theorem keepsRange_seeded : RandomSource.seeded.KeepsRange :=
  fun last s h => RandomSource.seeded_integer_mem 0 last s h

/-- **A choice from a set of values**: a last number, and a value for each number from zero to the
last, so that these are the values of the set. -/
structure Choice (values : Set Value) where
  last : Int64
  value : Int64 → Value
  nonneg : 0 ≤ last.toInt
  image_eq : value '' drawRange last = values

/-- A computation makes a choice after a trail: it draws one number, up to the last, and gives the
value of the number. -/
def Choice.MadeBy {values : Set Value} {σ : Type} (choice : Choice values) (env : Environment σ)
    (m : Eval σ Value) (t u : Trail σ) : Prop :=
  let (k, source) := env.random.integer 0 choice.last u.source
  m.runOn t = (.ok (choice.value k), { u with source })

/-- Made with a source that keeps to its range, a choice gives a value of the set. -/
theorem Choice.MadeBy.exists_mem {values : Set Value} {σ : Type} {choice : Choice values}
    {env : Environment σ} {m : Eval σ Value} {t u : Trail σ} (h : choice.MadeBy env m t u)
    (hrange : env.random.KeepsRange) : ∃ v ∈ values, (m.runOn t).1 = .ok v := by
  have hdrawn := hrange choice.last u.source choice.nonneg
  refine ⟨_, choice.image_eq.subset (Set.mem_image_of_mem _ hdrawn), ?_⟩
  rw [h]

/-! ## Integers of a grid -/

/-- The integers between two ends that are a number of steps away from the lower one. -/
def latticeBetween (low high step : Int64) : Set Value :=
  {v | ∃ r : Int64, v = .ofInt64 r ∧ low.toInt ≤ r.toInt ∧ r.toInt ≤ high.toInt ∧
    step.toInt ∣ r.toInt - low.toInt}

section Grid

variable {low high step span : Int64}

theorem gridBetween_of_lt (h : high.toInt < low.toInt) : gridBetween low high step = none :=
  if_pos h

theorem gridBetween_of_wide (h : fit? (high.toInt - low.toInt) = none) :
    gridBetween low high step = none := by
  rw [gridBetween, sub?, h]
  exact ite_self none

/-- A range that fits has as many steps as its width holds. -/
theorem exists_gridBetween (hstep : 1 ≤ step.toInt) (hle : low.toInt ≤ high.toInt)
    (hspan : span.toInt = high.toInt - low.toInt) :
    ∃ steps : Int64, steps.toInt = span.toInt / step.toInt ∧
      gridBetween low high step = some ⟨low, step, steps⟩ := by
  have hnonneg : 0 ≤ span.toInt := by omega
  have hle' : span.toInt / step.toInt ≤ span.toInt := Int.ediv_le_self _ hnonneg
  obtain ⟨steps, hsteps⟩ : ∃ steps : Int64, steps.toInt = span.toInt / step.toInt := by
    have := toInt_mem_range span
    have := Int.ediv_nonneg hnonneg (zero_le_one.trans hstep)
    exact exists_toInt_eq (by omega)
  refine ⟨steps, hsteps, ?_⟩
  rw [gridBetween, if_neg (not_lt.2 hle), sub?, ← hspan, fit?_toInt]
  simp only [Option.bind_eq_bind, Option.bind_some, Int.tdiv_eq_ediv_of_nonneg hnonneg, ← hsteps,
    fit?_toInt]
  rfl

/-- Neither the way from the lower end nor the integer it leads to is beyond 64 bits. -/
theorem exists_point (hstep : 1 ≤ step.toInt) (hspan : span.toInt = high.toInt - low.toInt)
    {k steps : Int64} (hk : k ∈ drawRange steps) (hsteps : steps.toInt = span.toInt / step.toInt) :
    ∃ r : Int64, Grid.point ⟨low, step, steps⟩ k = .ofInt64 r ∧
      r.toInt = low.toInt + k.toInt * step.toInt ∧ r.toInt ≤ high.toInt := by
  obtain ⟨hk0, hk⟩ := hk
  have hnonneg : 0 ≤ k.toInt * step.toInt := Int.mul_nonneg hk0 (zero_le_one.trans hstep)
  have hway : k.toInt * step.toInt ≤ span.toInt := by
    calc k.toInt * step.toInt ≤ span.toInt / step.toInt * step.toInt :=
          Int.mul_le_mul_of_nonneg_right (hsteps ▸ hk) (zero_le_one.trans hstep)
      _ ≤ span.toInt := Int.ediv_mul_le _ (by omega)
  have hlow := toInt_mem_range low
  have hhigh := toInt_mem_range high
  have hwide := toInt_mem_range span
  obtain ⟨offset, hoffset⟩ := exists_toInt_eq (n := k.toInt * step.toInt) (by omega)
  obtain ⟨r, hr⟩ := exists_toInt_eq (n := low.toInt + k.toInt * step.toInt) (by omega)
  refine ⟨r, ?_, hr, by omega⟩
  rw [Grid.point, mul?, ← hoffset, fit?_toInt, Option.bind_some, add?, hoffset, ← hr, fit?_toInt]
  rfl

/-- **A random integer**: the numbers of steps lead to the integers of the lattice. -/
theorem exists_choice_gridBetween (hstep : 1 ≤ step.toInt) (hle : low.toInt ≤ high.toInt)
    (hfit : (fit? (high.toInt - low.toInt)).isSome) :
    ∃ (g : Grid) (choice : Choice (latticeBetween low high step)),
      gridBetween low high step = some g ∧ choice.last = g.steps ∧ choice.value = g.point := by
  obtain ⟨span, hspan⟩ := Option.isSome_iff_exists.1 hfit
  rw [fit?_eq_some_iff] at hspan
  obtain ⟨steps, hsteps, hgrid⟩ := exists_gridBetween hstep hle hspan
  have hnonneg : 0 ≤ steps.toInt :=
    hsteps ▸ Int.ediv_nonneg (by omega) (zero_le_one.trans hstep)
  refine ⟨_, ⟨steps, Grid.point ⟨low, step, steps⟩, hnonneg, ?_⟩, hgrid, rfl, rfl⟩
  ext v
  constructor
  · rintro ⟨k, hk, rfl⟩
    obtain ⟨r, hpoint, hr, hhigh⟩ := exists_point hstep hspan hk hsteps
    refine ⟨r, hpoint, ?_, hhigh, ⟨k.toInt, by rw [hr]; ring⟩⟩
    have := Int.mul_nonneg hk.1 (zero_le_one.trans hstep)
    omega
  · rintro ⟨r, rfl, hlow, hhigh, j, hj⟩
    -- The integer is some number of steps away, and the width holds that many.
    have hj0 : 0 ≤ j := by
      by_contra hneg
      have := Int.mul_neg_of_pos_of_neg (by omega : 0 < step.toInt) (not_le.1 hneg)
      omega
    have hjle : j ≤ steps.toInt := by
      rw [hsteps]
      refine Int.le_ediv_of_mul_le (by omega) ?_
      rw [Int.mul_comm]
      omega
    obtain ⟨k, hk⟩ := exists_toInt_eq (n := j) (by have := toInt_mem_range steps; omega)
    have hmem : k ∈ drawRange steps := ⟨hk ▸ hj0, hk ▸ hjle⟩
    obtain ⟨r', hpoint, hr', -⟩ := exists_point hstep hspan hmem hsteps
    refine ⟨k, hmem, ?_⟩
    rw [hpoint]
    congr 1
    rw [← Int64.toInt_inj, hr', hk, Int.mul_comm, ← hj]
    ring

end Grid

/-! ## Elements of a container -/

/-- The elements of a container, each as a value. -/
def elementsIn (c : Container) : Set Value := {v | ∃ s ∈ c.items, v = .single s}

/-- **A random element**: the places lead to the elements. -/
theorem exists_choice_elementsIn {c : Container} (hne : c.items ≠ []) (hlen : c.size < 2 ^ 63) :
    ∃ choice : Choice (elementsIn c), choice.last = Int64.ofInt (c.size - 1) ∧
      choice.value = fun k => .ofScalar? (elementAt c.items (k + 1)) := by
  have hpos : 0 < c.size := List.length_pos_of_ne_nil hne
  have hlast : (Int64.ofInt (c.size - 1)).toInt = c.size - 1 :=
    Int64.toInt_ofInt_of_le (by omega) (by omega)
  -- The element of a number is the one at its place, counted from zero.
  have hplace {k : Int64} (hk : k ∈ drawRange (Int64.ofInt (c.size - 1))) :
      elementAt c.items (k + 1) = c.items[k.toInt.toNat]? := by
    obtain ⟨hk0, hk⟩ := hk
    rw [hlast] at hk
    have hnext : (k + 1).toInt = k.toInt + 1 := by
      have hone : (1 : Int64).toInt = 1 := rfl
      rw [Int64.toInt_add, hone, Int.bmod_eq_of_le (by omega) (by omega)]
    rw [elementAt, hnext, if_neg (by omega), Int.add_sub_cancel]
  have hsize : c.size = c.items.length := rfl
  refine ⟨⟨Int64.ofInt (c.size - 1), fun k => .ofScalar? (elementAt c.items (k + 1)), by omega,
    ?_⟩, rfl, rfl⟩
  ext v
  constructor
  · rintro ⟨k, hk, rfl⟩
    have hlt : k.toInt.toNat < c.items.length := by
      have hk' := hk
      rw [drawRange, Set.mem_ofPred_eq, hlast] at hk'
      omega
    refine ⟨c.items[k.toInt.toNat], List.getElem_mem hlt, ?_⟩
    dsimp only
    rw [hplace hk, List.getElem?_eq_getElem hlt]
    rfl
  · rintro ⟨s, hs, rfl⟩
    obtain ⟨j, hj, rfl⟩ := List.getElem_of_mem hs
    obtain ⟨k, hk⟩ := exists_toInt_eq (n := j) (by omega)
    have hmem : k ∈ drawRange (Int64.ofInt (c.size - 1)) := ⟨by omega, by omega⟩
    refine ⟨k, hmem, ?_⟩
    dsimp only
    rw [hplace hmem, hk, Int.toNat_natCast, List.getElem?_eq_getElem hj]
    rfl

/-! ## The operators -/

namespace Expr

open Eval

variable {store : Store} {min max step : IntegerAttribute} {low high pace : Int64}

theorem resolveGrid_eq (hmin : min.resolve "randomInteger" store = .ok (some low))
    (hmax : max.resolve "randomInteger" store = .ok (some high))
    (hstep : step.resolve "randomInteger" store = .ok (some pace)) :
    resolveGrid store min max step =
      if pace.toInt < 1 then
        .error (.invalidAttribute "randomInteger"
          ("step must be positive, got " ++ Text.integerText pace.toInt))
      else .ok (gridBetween low high pace) := by
  rw [resolveGrid, hmin, hmax, hstep]
  rfl

section RandomInteger

variable (hmin : min.resolve "randomInteger" store = .ok (some low))
    (hmax : max.resolve "randomInteger" store = .ok (some high))
    (hstep : step.resolve "randomInteger" store = .ok (some pace))
include hmin hmax hstep

/-- A step below one is a fault, without a draw. -/
theorem eval_randomInteger_of_step_lt (hlt : pace.toInt < 1) {σ : Type} (env : Environment σ)
    (t : Trail σ) :
    ((Expr.randomInteger min max step).eval env store).runOn t =
      (.error (.invalidAttribute "randomInteger"
        ("step must be positive, got " ++ Text.integerText pace.toInt)), t) := by
  rw [eval, resolveGrid_eq hmin hmax hstep, if_pos hlt]
  rfl

/-- Ends in reverse order, or too far apart, give NULL, without a draw. -/
theorem eval_randomInteger_null (hle : 1 ≤ pace.toInt)
    (hnone : high.toInt < low.toInt ∨ fit? (high.toInt - low.toInt) = none) {σ : Type}
    (env : Environment σ) (t : Trail σ) :
    ((Expr.randomInteger min max step).eval env store).runOn t = (.ok .null, t) := by
  rw [eval, resolveGrid_eq hmin hmax hstep, if_neg (by omega),
    hnone.elim gridBetween_of_lt gridBetween_of_wide]
  rfl

/-- Else a random integer is one draw, a choice from the lattice between the ends. -/
theorem exists_choice_randomInteger (hle : 1 ≤ pace.toInt) (hlow : low.toInt ≤ high.toInt)
    (hfit : (fit? (high.toInt - low.toInt)).isSome) :
    ∃ choice : Choice (latticeBetween low high pace),
      ∀ {σ : Type} (env : Environment σ) (t : Trail σ),
        choice.MadeBy env ((Expr.randomInteger min max step).eval env store) t t ∧
        (env.random.KeepsRange → ∃ v ∈ latticeBetween low high pace,
          (((Expr.randomInteger min max step).eval env store).runOn t).1 = .ok v) := by
  obtain ⟨g, choice, hg, hlast, hvalue⟩ := exists_choice_gridBetween hle hlow hfit
  refine ⟨choice, fun env t => ?_⟩
  have hmade : choice.MadeBy env ((Expr.randomInteger min max step).eval env store) t t := by
    rw [Choice.MadeBy, eval, resolveGrid_eq hmin hmax hstep, if_neg (by omega), hg, hlast, hvalue]
    rfl
  exact ⟨hmade, hmade.exists_mem⟩

/-- From a seed, as the command line draws, a random integer is one of the lattice. -/
theorem eval_randomInteger_seeded (hle : 1 ≤ pace.toInt) (hlow : low.toInt ≤ high.toInt)
    (hfit : (fit? (high.toInt - low.toInt)).isSome) {env : Environment UInt64}
    (henv : env.random = .seeded) (t : Trail UInt64) :
    ∃ v ∈ latticeBetween low high pace,
      (((Expr.randomInteger min max step).eval env store).runOn t).1 = .ok v := by
  obtain ⟨choice, hmade⟩ := exists_choice_randomInteger hmin hmax hstep hle hlow hfit
  exact (hmade env t).2 (henv ▸ keepsRange_seeded)

end RandomInteger

/-- **A random element** of a container that is not empty is one draw after the operand, with which
the source chooses from exactly the elements. A container in memory has fewer than `2 ^ 63`. -/
theorem exists_choice_random {c : Container} (hne : c.items ≠ []) (hlen : c.size < 2 ^ 63) :
    ∃ choice : Choice (elementsIn c),
      ∀ {σ : Type} (env : Environment σ) (store : Store) (operand : Expr) (v : Value)
        (t u : Trail σ), v = .multiple c ∨ v = .ordered c →
          (operand.eval env store).runOn t = (.ok v, u) →
            choice.MadeBy env ((Expr.random operand).eval env store) t u ∧
            (env.random.KeepsRange → ∃ w ∈ elementsIn c,
              (((Expr.random operand).eval env store).runOn t).1 = .ok w) := by
  obtain ⟨choice, hlast, hvalue⟩ := exists_choice_elementsIn hne hlen
  refine ⟨choice, fun env store operand v t u hv hrun => ?_⟩
  have hnull : v.isNull = false := by
    rcases hv with rfl | rfl <;> simpa [Value.isNull, Container.isEmpty] using hne
  have hcontainer : containerOf "random" v = .ok c := by
    rcases hv with rfl | rfl <;> rfl
  have hmade : choice.MadeBy env ((Expr.random operand).eval env store) t u := by
    rw [Choice.MadeBy, eval, runOn_bind_of_ok hrun, drawElement, if_neg (by simp [hnull]),
      hcontainer, hlast, hvalue]
    rfl
  exact ⟨hmade, hmade.exists_mem⟩

/-- **Random choices.** With attributes that have values, a random integer is a fault for a step
below one, and NULL for ends in reverse order or too far apart, both without a draw. Else it is one
draw, with which the source chooses from exactly the integers between the ends that are whole steps
away from the lower one. Whatever stands elsewhere, a random element of a container that is not
empty is one draw after the operand, with which the source chooses from exactly the elements; a
container in memory has fewer than `2 ^ 63`. -/
theorem eval_choice :
    (∀ {store : Store} {min max step : IntegerAttribute} {low high pace : Int64},
      min.resolve "randomInteger" store = .ok (some low) →
      max.resolve "randomInteger" store = .ok (some high) →
      step.resolve "randomInteger" store = .ok (some pace) →
        (pace.toInt < 1 → ∀ {σ : Type} (env : Environment σ) (t : Trail σ),
          ((Expr.randomInteger min max step).eval env store).runOn t =
            (.error (.invalidAttribute "randomInteger"
              ("step must be positive, got " ++ Text.integerText pace.toInt)), t)) ∧
        (1 ≤ pace.toInt → high.toInt < low.toInt ∨ fit? (high.toInt - low.toInt) = none →
          ∀ {σ : Type} (env : Environment σ) (t : Trail σ),
            ((Expr.randomInteger min max step).eval env store).runOn t = (.ok .null, t)) ∧
        (1 ≤ pace.toInt → low.toInt ≤ high.toInt → (fit? (high.toInt - low.toInt)).isSome →
          ∃ choice : Choice (latticeBetween low high pace),
            ∀ {σ : Type} (env : Environment σ) (t : Trail σ),
              choice.MadeBy env ((Expr.randomInteger min max step).eval env store) t t ∧
              (env.random.KeepsRange → ∃ v ∈ latticeBetween low high pace,
                (((Expr.randomInteger min max step).eval env store).runOn t).1 = .ok v))) ∧
    ∀ {c : Container}, c.items ≠ [] → c.size < 2 ^ 63 →
      ∃ choice : Choice (elementsIn c),
        ∀ {σ : Type} (env : Environment σ) (store : Store) (operand : Expr) (v : Value)
          (t u : Trail σ), v = .multiple c ∨ v = .ordered c →
            (operand.eval env store).runOn t = (.ok v, u) →
              choice.MadeBy env ((Expr.random operand).eval env store) t u ∧
              (env.random.KeepsRange → ∃ w ∈ elementsIn c,
                (((Expr.random operand).eval env store).runOn t).1 = .ok w) :=
  ⟨fun hmin hmax hstep => ⟨eval_randomInteger_of_step_lt hmin hmax hstep,
    eval_randomInteger_null hmin hmax hstep, exists_choice_randomInteger hmin hmax hstep⟩,
    exists_choice_random⟩

/-- From the least integer of all to minus one, in steps of two to the power 62: the width is the
greatest that fits, and a script whose number is too great chooses the last of two integers. The
replayed source keeps to its range, so the integer is one of the lattice. -/
theorem eval_choice_negative :
    (fit? ((-1 : Int64).toInt - Int64.minValue.toInt)).isSome ∧
      ∃ choice : Choice (latticeBetween Int64.minValue (-1) 4611686018427387904),
        let e : Expr := .randomInteger (.value Int64.minValue) (.value (-1))
          (.value 4611686018427387904)
        let t : Trail RandomSource.Script := .start ⟨[7], []⟩
        choice.MadeBy .replay (e.eval .replay .empty) t t ∧
          (∃ v ∈ latticeBetween Int64.minValue (-1) 4611686018427387904,
            ((e.eval .replay .empty).runOn t).1 = .ok v) ∧
          ((e.eval .replay .empty).runOn t).1 = .ok (.ofInt64 (-4611686018427387904)) := by
  have hmin : IntegerAttribute.resolve "randomInteger" .empty (.value Int64.minValue) =
      .ok (some Int64.minValue) := rfl
  have hmax : IntegerAttribute.resolve "randomInteger" .empty (.value (-1)) =
      .ok (some (-1)) := rfl
  have hstep : IntegerAttribute.resolve "randomInteger" .empty (.value 4611686018427387904) =
      .ok (some 4611686018427387904) := rfl
  have hfit : (fit? ((-1 : Int64).toInt - Int64.minValue.toInt)).isSome := by decide
  obtain ⟨-, -, hchoice⟩ := eval_choice.1 hmin hmax hstep
  obtain ⟨choice, hmade⟩ := hchoice (by decide) (by decide) hfit
  obtain ⟨hmade, hmem⟩ := hmade .replay (.start ⟨[7], []⟩)
  exact ⟨hfit, choice, hmade, hmem keepsRange_scripted, by decide⟩

end Expr

end Assessment
