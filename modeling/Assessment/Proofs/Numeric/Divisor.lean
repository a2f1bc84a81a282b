import Assessment.Proofs.Numeric.Division
import Mathlib.Algebra.GCDMonoid.Multiset
import Mathlib.Algebra.GCDMonoid.Nat
import Mathlib.Logic.Function.Iterate

/-!
# Greatest divisors and least multiples

The greatest common divisor of two integers is found by Euclid's algorithm on their magnitudes. A
list is worked off from its first integer, with the divisor or the multiple of those so far. Every
multiple on the way divides the whole one, so that the least multiple is found whenever it fits in
64 bits. The magnitude of the least integer does not fit: that is too great for a multiple anyway,
but it hides a divisor that would fit.

The code is `gcd_pair`, `gcd` and `lcm`. The first takes magnitudes by `checked_abs`, the last
multiplies with a check; a list is folded from the left.

* `exists_chain`: the algorithm ends, after at most as many divisions as the divisor is great.
* `toInt_euclid`: it ends with the greatest common divisor.
* `least_multiple`: the least common multiple is what there is, when it fits.
* `greatest_divisor`: the greatest common divisor is what there is without the least integer.
-/

namespace Assessment.Numeric

variable {a b d v : Int64} {l : List Int64}

/-! ## Euclid's algorithm -/

/-- One division of Euclid's algorithm: by the second number, which comes first then. -/
def divideOnce (p : Int64 × Int64) : Int64 × Int64 := (p.2, p.1 % p.2)

/-- From two numbers, `n` divisions leave `d` and zero, and none before them divides by zero. -/
structure Chain (a b : Int64) (n : ℕ) (d : Int64) : Prop where
  last : divideOnce^[n] (a, b) = (d, 0)
  divisors : ∀ k < n, (divideOnce^[k] (a, b)).2 ≠ 0

theorem Chain.step {n : ℕ} (hb : b ≠ 0) (h : Chain b (a % b) n d) : Chain a b (n + 1) d where
  last := h.last
  divisors
    | 0, _ => hb
    | k + 1, hk => h.divisors k (Nat.lt_of_succ_lt_succ hk)

/-- **The algorithm ends**: every division leaves a divisor nearer to zero. -/
theorem exists_chain (a b : Int64) : ∃ n ≤ b.toInt.natAbs, Chain a b n (euclid a b) := by
  induction a, b using euclid.induct with
  | case1 a =>
    refine ⟨0, Nat.zero_le _, ?_, nofun⟩
    rw [euclid, if_pos rfl]
    rfl
  | case2 a b hb ih =>
    obtain ⟨n, hn, hchain⟩ := ih
    rw [euclid, if_neg hb]
    exact ⟨n + 1, hn.trans_lt (natAbs_toInt_mod_lt a hb), hchain.step hb⟩

/-- From numbers that are not below zero, the algorithm ends with their greatest common divisor: a
division keeps it. -/
theorem toInt_euclid (ha : 0 ≤ a.toInt) (hb : 0 ≤ b.toInt) :
    (euclid a b).toInt = Nat.gcd a.toInt.natAbs b.toInt.natAbs := by
  induction a, b using euclid.induct with
  | case1 a =>
    rw [euclid, if_pos rfl, Int64.toInt_zero, Int.natAbs_zero, Nat.gcd_zero_right]
    exact (Int.natAbs_of_nonneg ha).symm
  | case2 a b hzero ih =>
    have hmod : 0 ≤ (a % b).toInt := by
      rw [Int64.toInt_mod]
      exact Int.tmod_nonneg _ ha
    rw [euclid, if_neg hzero, ih hb hmod, Int64.toInt_mod, Int.natAbs_tmod, Nat.gcd_comm,
      ← Nat.gcd_rec, Nat.gcd_comm]

/-! ## Magnitudes -/

theorem fit?_natCast_eq_none_iff (n : ℕ) : fit? n = none ↔ 2 ^ 63 ≤ n := by
  rw [fit?_eq_none_iff_range]
  omega

theorem exists_toInt_eq_natCast {n : ℕ} (h : n < 2 ^ 63) : ∃ i : Int64, i.toInt = n :=
  exists_toInt_eq (by omega)

/-- The least integer is the one whose magnitude does not fit. -/
theorem eq_minValue_iff : a = Int64.minValue ↔ 2 ^ 63 ≤ a.toInt.natAbs := by
  have hrange := toInt_mem_range a
  have hmin : Int64.minValue.toInt = -2 ^ 63 := by decide
  rw [← Int64.toInt_inj, hmin]
  omega

theorem ne_minValue_of_nonneg (ha : 0 ≤ a.toInt) : a ≠ Int64.minValue := by
  rw [Ne, eq_minValue_iff]
  have := toInt_mem_range a
  omega

theorem exists_abs? (ha : a ≠ Int64.minValue) :
    ∃ m : Int64, abs? a = some m ∧ m.toInt = a.toInt.natAbs := by
  rw [Ne, eq_minValue_iff, not_le] at ha
  obtain ⟨m, hm⟩ := exists_toInt_eq_natCast ha
  exact ⟨m, (fit?_eq_some_iff _ _).2 hm, hm⟩

theorem abs?_minValue : abs? Int64.minValue = none := by decide

theorem gcdPair?_minValue (a : Int64) : gcdPair? a Int64.minValue = none := by
  rw [gcdPair?, abs?_minValue]
  cases abs? a <;> rfl

/-- Two integers have a greatest common divisor unless one of them is the least integer. -/
theorem exists_gcdPair? (ha : a ≠ Int64.minValue) (hb : b ≠ Int64.minValue) :
    ∃ d, gcdPair? a b = some d ∧ d.toInt = Nat.gcd a.toInt.natAbs b.toInt.natAbs := by
  obtain ⟨m, hm, hm'⟩ := exists_abs? ha
  obtain ⟨n, hn, hn'⟩ := exists_abs? hb
  refine ⟨euclid m n, by rw [gcdPair?, hm, hn]; rfl, ?_⟩
  rw [toInt_euclid (by omega) (by omega), hm', hn', Int.natAbs_natCast, Int.natAbs_natCast]

/-- The magnitudes of integers. -/
def magnitudes (l : List Int64) : Multiset ℕ := ↑(l.map fun v => v.toInt.natAbs)

theorem magnitudes_cons (v : Int64) (l : List Int64) :
    magnitudes (v :: l) = v.toInt.natAbs ::ₘ magnitudes l := rfl

theorem forall_magnitudes {p : ℕ → Prop} :
    (∀ n ∈ magnitudes l, p n) ↔ ∀ v ∈ l, p v.toInt.natAbs := by
  simp [magnitudes]

/-! ## The greatest common divisor -/

/-- The greatest common divisor of integers, without bounds. -/
def greatestDivisor (l : List Int64) : ℕ := (magnitudes l).gcd

theorem greatestDivisor_nil : greatestDivisor [] = 0 := Multiset.gcd_zero

theorem greatestDivisor_cons (v : Int64) (l : List Int64) :
    greatestDivisor (v :: l) = Nat.gcd v.toInt.natAbs (greatestDivisor l) := by
  rw [greatestDivisor, magnitudes_cons, Multiset.gcd_cons]
  rfl

theorem dvd_greatestDivisor_iff {n : ℕ} :
    n ∣ greatestDivisor l ↔ ∀ v ∈ l, n ∣ v.toInt.natAbs :=
  Multiset.dvd_gcd.trans forall_magnitudes

theorem greatestDivisor_eq_zero_iff : greatestDivisor l = 0 ↔ ∀ v ∈ l, v = 0 := by
  rw [greatestDivisor, Multiset.gcd_eq_zero_iff, forall_magnitudes]
  simp only [Int.natAbs_eq_zero, toInt_eq_zero_iff]

theorem gcdFrom?_of_mem (h : Int64.minValue ∈ l) (a : Int64) : gcdFrom? a l = none := by
  induction l generalizing a with
  | nil => cases h
  | cons v l ih =>
    rw [gcdFrom?]
    rcases List.mem_cons.1 h with rfl | h
    · rw [gcdPair?_minValue]
      rfl
    · cases gcdPair? a v with
      | none => rfl
      | some d => exact ih h d

theorem exists_gcdFrom? (h : Int64.minValue ∉ l) (ha : 0 ≤ a.toInt) :
    ∃ d, gcdFrom? a l = some d ∧ d.toInt = Nat.gcd a.toInt.natAbs (greatestDivisor l) := by
  induction l generalizing a with
  | nil =>
    refine ⟨a, rfl, ?_⟩
    rw [greatestDivisor_nil, Nat.gcd_zero_right]
    exact (Int.natAbs_of_nonneg ha).symm
  | cons v l ih =>
    obtain ⟨hv, hl⟩ := List.ne_and_not_mem_of_not_mem_cons h
    obtain ⟨d, hd, hd'⟩ := exists_gcdPair? (ne_minValue_of_nonneg ha) hv.symm
    obtain ⟨e, he, he'⟩ := ih hl (a := d) (by omega)
    refine ⟨e, by rw [gcdFrom?, hd]; exact he, ?_⟩
    rw [he', hd', Int.natAbs_natCast, greatestDivisor_cons, Nat.gcd_assoc]

/-- There is a greatest common divisor exactly without the least integer. -/
theorem gcd?_eq_some_iff :
    gcd? l = some d ↔ Int64.minValue ∉ l ∧ d.toInt = greatestDivisor l := by
  by_cases h : Int64.minValue ∈ l
  · rw [gcd?, gcdFrom?_of_mem h]
    exact iff_of_false nofun fun h' => h'.1 h
  · obtain ⟨e, he, he'⟩ := exists_gcdFrom? h (a := 0) (by decide)
    rw [Int64.toInt_zero, Int.natAbs_zero, Nat.gcd_zero_left] at he'
    rw [gcd?, he, Option.some_inj, and_iff_right h, ← he', Int64.toInt_inj, eq_comm]

theorem gcd?_eq_none_iff : gcd? l = none ↔ Int64.minValue ∈ l := by
  by_cases h : Int64.minValue ∈ l
  · rw [gcd?, gcdFrom?_of_mem h]
    exact iff_of_true rfl h
  · obtain ⟨e, he, -⟩ := exists_gcdFrom? h (a := 0) (by decide)
    rw [gcd?, he]
    exact iff_of_false nofun h

/-- The greatest common divisor does not fit when there is nothing but the least integer and
zeros. -/
theorem two_pow_le_greatestDivisor_iff :
    2 ^ 63 ≤ greatestDivisor l ↔
      Int64.minValue ∈ l ∧ ∀ v ∈ l, v = 0 ∨ v = Int64.minValue := by
  constructor
  · intro h
    have hall : ∀ v ∈ l, v = 0 ∨ v = Int64.minValue := by
      intro v hv
      refine or_iff_not_imp_left.2 fun hzero => eq_minValue_iff.2 (h.trans ?_)
      exact Nat.le_of_dvd (Int.natAbs_pos.2 (toInt_ne_zero hzero))
        (dvd_greatestDivisor_iff.1 (dvd_refl _) v hv)
    refine ⟨?_, hall⟩
    by_contra hmin
    have hzero : greatestDivisor l = 0 := greatestDivisor_eq_zero_iff.2 fun v hv =>
      (hall v hv).resolve_right fun h => hmin (h ▸ hv)
    omega
  · rintro ⟨hmin, hall⟩
    have hne : greatestDivisor l ≠ 0 := fun h =>
      absurd (greatestDivisor_eq_zero_iff.1 h _ hmin) (by decide)
    refine Nat.le_of_dvd (Nat.pos_of_ne_zero hne) (dvd_greatestDivisor_iff.2 fun v hv => ?_)
    rcases hall v hv with rfl | rfl <;> decide

/-- **The greatest common divisor.** Euclid's algorithm ends. A list without the least integer has a
greatest common divisor, zero when all integers are; with the least integer there is none. That is
what the greatest common divisor without bounds would give exactly when the least integer, if it is
there, has none but zeros and itself beside it. -/
theorem greatest_divisor (l : List Int64) :
    (∀ a b : Int64, ∃ n ≤ b.toInt.natAbs, Chain a b n (euclid a b)) ∧
    (∀ n : ℕ, n ∣ greatestDivisor l ↔ ∀ v ∈ l, (n : ℤ) ∣ v.toInt) ∧
    (greatestDivisor l = 0 ↔ ∀ v ∈ l, v = 0) ∧
    (∀ d, gcd? l = some d ↔ Int64.minValue ∉ l ∧ d.toInt = greatestDivisor l) ∧
    (gcd? l = none ↔ Int64.minValue ∈ l) ∧
    (gcd? l = fit? (greatestDivisor l) ↔
      (Int64.minValue ∈ l → ∀ v ∈ l, v = 0 ∨ v = Int64.minValue)) := by
  refine ⟨exists_chain, fun n => ?_, greatestDivisor_eq_zero_iff, fun d => gcd?_eq_some_iff,
    gcd?_eq_none_iff, ?_⟩
  · rw [dvd_greatestDivisor_iff]
    simp only [Int.natCast_dvd]
  by_cases h : Int64.minValue ∈ l
  · rw [gcd?_eq_none_iff.2 h, eq_comm, fit?_natCast_eq_none_iff, two_pow_le_greatestDivisor_iff,
      and_iff_right h, forall_prop_of_true h]
  · obtain ⟨d, hd⟩ := Option.ne_none_iff_exists'.1 (mt gcd?_eq_none_iff.1 h)
    rw [hd, ← (gcd?_eq_some_iff.1 hd).2, fit?_toInt]
    exact iff_of_true rfl fun h' => absurd h' h

/-- Twelve, minus eighteen and thirty: their greatest common divisor is six. -/
theorem greatest_divisor_six :
    greatestDivisor [12, -18, 30] = 6 ∧ gcd? [12, -18, 30] = some 6 := by
  have hdivisor : greatestDivisor [12, -18, 30] = 6 := by decide
  refine ⟨hdivisor, ((greatest_divisor [12, -18, 30]).2.2.2.1 6).2 ⟨by decide, ?_⟩⟩
  rw [hdivisor]
  rfl

/-- The least integer and six: their greatest common divisor is two, which is not found. -/
theorem gcd?_least_and_six :
    gcd? [Int64.minValue, 6] = none ∧ greatestDivisor [Int64.minValue, 6] = 2 :=
  ⟨gcd?_eq_none_iff.2 (by decide), by decide⟩

/-! ## The least common multiple -/

/-- The least common multiple of integers, without bounds. -/
def leastMultiple (l : List Int64) : ℕ := (magnitudes l).lcm

theorem leastMultiple_nil : leastMultiple [] = 1 := Multiset.lcm_zero

theorem leastMultiple_cons (v : Int64) (l : List Int64) :
    leastMultiple (v :: l) = Nat.lcm v.toInt.natAbs (leastMultiple l) := by
  rw [leastMultiple, magnitudes_cons, Multiset.lcm_cons]
  rfl

theorem leastMultiple_dvd_iff {n : ℕ} :
    leastMultiple l ∣ n ↔ ∀ v ∈ l, v.toInt.natAbs ∣ n :=
  Multiset.lcm_dvd.trans forall_magnitudes

theorem leastMultiple_eq_zero_iff : leastMultiple l = 0 ↔ 0 ∈ l := by
  rw [leastMultiple, Multiset.lcm_eq_zero_iff]
  simp [magnitudes, toInt_eq_zero_iff]

theorem leastMultiple_pos (h : 0 ∉ l) : 0 < leastMultiple l :=
  Nat.pos_of_ne_zero (mt leastMultiple_eq_zero_iff.1 h)

/-- The multiple of those so far and one more integer is the first divided by their greatest common
divisor, times the magnitude of the other: there is no division by zero, and only the product may
not fit. -/
theorem lcmFrom?_cons (ha : 0 < a.toInt) (hv : v ≠ Int64.minValue) :
    lcmFrom? a (v :: l) =
      (fit? (Nat.lcm a.toInt.natAbs v.toInt.natAbs)).bind fun m => lcmFrom? m l := by
  obtain ⟨g, hg, hg'⟩ := exists_gcdPair? (ne_minValue_of_nonneg ha.le) hv
  obtain ⟨m, hm, hm'⟩ := exists_abs? hv
  have hdvd : g.toInt.natAbs ∣ a.toInt.natAbs := by
    rw [hg', Int.natAbs_natCast]
    exact Nat.gcd_dvd_left ..
  have hquotient : Int.tdiv a.toInt g.toInt = (a.toInt.natAbs / g.toInt.natAbs : ℕ) := by
    rw [Int.tdiv_eq_ediv_of_nonneg ha.le, Int.natCast_ediv, Int.natAbs_of_nonneg ha.le,
      Int.natAbs_of_nonneg (by omega)]
  obtain ⟨q, hq⟩ := exists_toInt_eq_natCast (n := a.toInt.natAbs / g.toInt.natAbs) <| by
    have hle := Nat.div_le_self a.toInt.natAbs g.toInt.natAbs
    have := toInt_mem_range a
    omega
  have hproduct : mul? q m = fit? (Nat.lcm a.toInt.natAbs v.toInt.natAbs) := by
    rw [mul?, hq, hm', ← Int.natCast_mul, Nat.div_mul_right_comm hdvd, hg', Int.natAbs_natCast,
      Nat.lcm_eq_mul_div]
  rw [lcmFrom?, hg]
  simp only [Option.bind_eq_bind, Option.bind_some, hquotient, ← hq, fit?_toInt, hm, hproduct]

theorem lcmFrom?_minValue (a : Int64) (l : List Int64) :
    lcmFrom? a (Int64.minValue :: l) = none := by
  rw [lcmFrom?, gcdPair?_minValue]
  rfl

/-- **The run**: the multiple of those so far divides the whole one, so it fits when the whole one
does. -/
theorem lcmFrom?_eq (ha : 0 < a.toInt) (hl : 0 ∉ l) :
    lcmFrom? a l = fit? (Nat.lcm a.toInt.natAbs (leastMultiple l)) := by
  induction l generalizing a with
  | nil =>
    rw [leastMultiple_nil, Nat.lcm_one_right, Int.natAbs_of_nonneg ha.le, fit?_toInt]
    rfl
  | cons v l ih =>
    obtain ⟨hv, hl⟩ := List.ne_and_not_mem_of_not_mem_cons hl
    have hpos : 0 < Nat.lcm a.toInt.natAbs v.toInt.natAbs :=
      Nat.lcm_pos (by omega) (Int.natAbs_pos.2 (toInt_ne_zero hv.symm))
    -- What does not fit so far divides the whole, which is above zero.
    have hnone {n : ℕ} (hn : n ∣ Nat.lcm a.toInt.natAbs (leastMultiple (v :: l)))
        (hfit : 2 ^ 63 ≤ n) : fit? (Nat.lcm a.toInt.natAbs (leastMultiple (v :: l))) = none := by
      refine (fit?_natCast_eq_none_iff _).2 (hfit.trans (Nat.le_of_dvd ?_ hn))
      rw [leastMultiple_cons, ← Nat.lcm_assoc]
      exact Nat.lcm_pos hpos (leastMultiple_pos hl)
    by_cases hmin : v = Int64.minValue
    · subst hmin
      rw [lcmFrom?_minValue, hnone _ (eq_minValue_iff.1 rfl)]
      rw [leastMultiple_cons]
      exact (Nat.dvd_lcm_left ..).trans (Nat.dvd_lcm_right ..)
    rw [lcmFrom?_cons ha hmin]
    cases hm : fit? (Nat.lcm a.toInt.natAbs v.toInt.natAbs) with
    | none =>
      rw [hnone _ ((fit?_natCast_eq_none_iff _).1 hm)]
      · rfl
      · rw [leastMultiple_cons, ← Nat.lcm_assoc]
        exact Nat.dvd_lcm_left ..
    | some m =>
      have hm' := (fit?_eq_some_iff _ _).1 hm
      rw [Option.bind_some, ih (by omega) hl, hm', Int.natAbs_natCast, leastMultiple_cons,
        Nat.lcm_assoc]

/-- The least common multiple is the one without bounds, when it fits. -/
theorem lcm?_eq (l : List Int64) : lcm? l = fit? (leastMultiple l) := by
  have hany : (l.any fun v => v == 0) = true ↔ 0 ∈ l := by simp
  rw [lcm?]
  split_ifs with hzero
  · rw [leastMultiple_eq_zero_iff.2 (hany.1 hzero)]
    rfl
  · rw [lcmFrom?_eq (by decide) (mt hany.2 hzero)]
    exact congrArg (fun n : ℕ => fit? n) (Nat.lcm_one_left _)

/-- **The least common multiple.** A list has the least common multiple of its integers when it
fits in 64 bits, zero when one of them is, and else none. The order of the list does not matter. -/
theorem least_multiple (l : List Int64) :
    (∀ n : ℕ, leastMultiple l ∣ n ↔ ∀ v ∈ l, v.toInt ∣ n) ∧
    (leastMultiple l = 0 ↔ 0 ∈ l) ∧
    (∀ m, lcm? l = some m ↔ m.toInt = leastMultiple l) ∧
    ((lcm? l).isSome ↔ (leastMultiple l : ℤ) ≤ Int64.maxValue.toInt) ∧
    (lcm? l = none ↔ Int64.maxValue.toInt < leastMultiple l) ∧
    ∀ k : List Int64, k.Perm l → lcm? k = lcm? l := by
  have hmax : Int64.maxValue.toInt = 2 ^ 63 - 1 := by decide
  refine ⟨fun n => ?_, leastMultiple_eq_zero_iff, fun m => ?_, ?_, ?_, fun k hk => ?_⟩
  · rw [leastMultiple_dvd_iff]
    simp only [Int.dvd_natCast]
  · rw [lcm?_eq, fit?_eq_some_iff]
  · rw [lcm?_eq, fit?_isSome_iff_range]
    omega
  · rw [lcm?_eq, fit?_natCast_eq_none_iff]
    omega
  · have hmagnitudes : magnitudes k = magnitudes l := Multiset.coe_eq_coe.2 (hk.map _)
    rw [lcm?_eq, lcm?_eq, leastMultiple, hmagnitudes, leastMultiple]

/-- Two, and two to the power 62 with either sign: no two of them have a product that fits, but the
least common multiple does, in every order. -/
theorem least_multiple_powers :
    List.Perm [-4611686018427387904, 4611686018427387904, (2 : Int64)]
        [2, 4611686018427387904, -4611686018427387904] ∧
      lcm? [-4611686018427387904, 4611686018427387904, 2] =
        lcm? [2, 4611686018427387904, -4611686018427387904] ∧
      lcm? [2, 4611686018427387904, -4611686018427387904] = some 4611686018427387904 := by
  have hperm : List.Perm [-4611686018427387904, 4611686018427387904, (2 : Int64)]
      [2, 4611686018427387904, -4611686018427387904] := by decide
  obtain ⟨-, -, hsome, -, -, horder⟩ :=
    least_multiple [2, 4611686018427387904, -4611686018427387904]
  exact ⟨hperm, horder _ hperm, (hsome _).2 (by decide)⟩

end Assessment.Numeric
