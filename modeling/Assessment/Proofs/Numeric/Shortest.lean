import Assessment.Proofs.Numeric.Reading

/-!
# The shortest decimal of a double

The search for the shortest decimal goes from a grid of powers of ten that is too coarse to ever
finer ones. It tries the two points next to the double, and stops where one of them is among the
numbers that the double is nearest to. These are all the numbers between two ends, so that no other
point has to be tried, and among 30 grids there is one with a point between them.

These are the digits that a double is printed with, and those that `round_to` rounds (section B.4.1
of the specification: the digits it prints as).

* `rounded_iff_contains`: the neighbourhood of a double is the numbers that the double is nearest
  to.
* `gridPoint?_spec`: a grid without a point next to the double that is in the neighbourhood has
  none.
* `isShortest_shortest`: the shortest decimal is read back as the double, no decimal of a coarser
  grid is, and on its own grid none is nearer.
* `length_shortest_le`: no decimal with fewer digits is read back as the double.
-/

namespace Assessment.Decimal

open Numeric Text

/-! ## The numbers that round to a double -/

/-- The numbers between the ends, these two included or not. -/
def Neighbourhood.Contains (h : Neighbourhood) (q : ℚ) : Prop :=
  if h.closed then h.low * 2 ^ h.exponent ≤ q ∧ q ≤ h.high * 2 ^ h.exponent
  else h.low * 2 ^ h.exponent < q ∧ q < h.high * 2 ^ h.exponent

variable {h : Neighbourhood} {q r s : ℚ} {m : ℕ} {e k : ℤ}

/-- What is between two numbers of a neighbourhood is in it. -/
theorem Neighbourhood.Contains.between (hq : h.Contains q) (hs : h.Contains s) (hqr : q ≤ r)
    (hrs : r ≤ s) : h.Contains r := by
  unfold Contains at *
  split_ifs at *
  · exact ⟨hq.1.trans hqr, hrs.trans hs.2⟩
  · exact ⟨hq.1.trans_le hqr, hrs.trans_lt hs.2⟩

theorem Neighbourhood.Contains.of_lt (hlow : h.low * 2 ^ h.exponent < q)
    (hhigh : q < h.high * 2 ^ h.exponent) : h.Contains q := by
  unfold Contains
  split_ifs
  · exact ⟨hlow.le, hhigh.le⟩
  · exact ⟨hlow, hhigh⟩

theorem Neighbourhood.Contains.low_le (hq : h.Contains q) : h.low * 2 ^ h.exponent ≤ q := by
  unfold Contains at hq
  split_ifs at hq
  · exact hq.1
  · exact hq.1.le

theorem Neighbourhood.Contains.le_high (hq : h.Contains q) : q ≤ h.high * 2 ^ h.exponent := by
  unfold Contains at hq
  split_ifs at hq
  · exact hq.2
  · exact hq.2.le

theorem Neighbourhood.contains_centre (hlow : h.low < h.centre) (hhigh : h.centre < h.high) :
    h.Contains (h.centre * 2 ^ h.exponent) := by
  have hunit : (0 : ℚ) < 2 ^ h.exponent := by positivity
  exact .of_lt (mul_lt_mul_of_pos_right (Nat.cast_lt.2 hlow) hunit)
    (mul_lt_mul_of_pos_right (Nat.cast_lt.2 hhigh) hunit)

theorem low_pos (e : ℤ) (hm : 0 < m) : 0 < (neighbourhood m e).low := by
  rw [neighbourhood]
  dsimp only
  split <;> omega

theorem low_lt_centre (e : ℤ) (hm : 0 < m) : (neighbourhood m e).low < (neighbourhood m e).centre := by
  rw [neighbourhood]
  dsimp only
  split <;> omega

/-- The ends, each a number of quarters of the double's unit. -/
theorem contains_mul_iff (t : ℚ) : (neighbourhood m e).Contains (t * 2 ^ e) ↔
    if Even m then (neighbourhood m e).low / 4 ≤ t ∧ t ≤ (neighbourhood m e).high / 4
    else (neighbourhood m e).low / 4 < t ∧ t < (neighbourhood m e).high / 4 := by
  have hquarter : (0 : ℚ) < 2 ^ (e - 2) := by positivity
  have hunit : t * 2 ^ e = 4 * t * 2 ^ (e - 2) := by
    rw [zpow_sub₀ two_ne_zero]
    norm_num
    ring
  have hclosed : (neighbourhood m e).closed = true ↔ Even m := by
    rw [Nat.even_iff]
    exact beq_iff_eq
  have hexponent : (neighbourhood m e).exponent = e - 2 := rfl
  simp only [Neighbourhood.Contains, hclosed, hexponent, hunit, mul_le_mul_iff_left₀ hquarter,
    mul_lt_mul_iff_left₀ hquarter, div_le_iff₀' (four_pos (α := ℚ)), le_div_iff₀' (four_pos (α := ℚ)),
    div_lt_iff₀' (four_pos (α := ℚ)), lt_div_iff₀' (four_pos (α := ℚ))]

/-- The ends are half a unit away, but only a quarter below a power of two. -/
theorem contains_neighbourhood_iff (hm : 0 < m) (t : ℚ) :
    (neighbourhood m e).Contains (t * 2 ^ e) ↔
      NearestInt t m ∧ (m = 2 ^ 52 ∧ -1074 < e → m - 1 / 4 ≤ t) := by
  have hleading : Binary.leadingBit = 2 ^ 52 := rfl
  have hhigh : ((neighbourhood m e).high : ℚ) / 4 = m + 1 / 2 := by
    rw [neighbourhood]
    push_cast
    ring
  rw [contains_mul_iff, hhigh, nearestInt_iff, Int.cast_natCast, Int.even_coe_nat, neighbourhood,
    hleading]
  by_cases hpower : m = 2 ^ 52 ∧ -1074 < e
  · have heven : Even m := hpower.1 ▸ by decide
    have hlow : ((4 * m - 1 : ℕ) : ℚ) / 4 = m - 1 / 4 := by
      rw [Nat.cast_sub (by omega)]
      push_cast
      ring
    rw [if_pos heven, if_pos hpower, hlow, abs_le]
    constructor
    · rintro ⟨hge, hle⟩
      exact ⟨⟨⟨by linarith, by linarith⟩, fun _ => heven⟩, fun _ => hge⟩
    · rintro ⟨⟨⟨hge, hle⟩, -⟩, hquarter⟩
      exact ⟨hquarter hpower, by linarith⟩
  · have hlow : ((4 * m - 2 : ℕ) : ℚ) / 4 = m - 1 / 2 := by
      rw [Nat.cast_sub (by omega)]
      push_cast
      ring
    rw [if_neg hpower, hlow]
    simp only [hpower, false_implies, and_true]
    split
    · rw [abs_le]
      constructor
      · rintro ⟨hge, hle⟩
        exact ⟨⟨by linarith, by linarith⟩, fun _ => ‹Even m›⟩
      · rintro ⟨⟨hge, hle⟩, -⟩
        exact ⟨by linarith, by linarith⟩
    · have hodd : ¬Even m := ‹_›
      simp only [hodd, imp_false, ← lt_iff_le_and_ne, abs_lt]
      constructor
      · rintro ⟨hge, hle⟩
        exact ⟨by linarith, by linarith⟩
      · rintro ⟨hge, hle⟩
        exact ⟨by linarith, by linarith⟩

/-- Only below a power of two is the grid of a number finer than the double it is close to. -/
theorem of_gridExponent_lt (hb : Binary.Canonical ⟨false, m, e⟩) (hq : 0 < q)
    (hclose : |m - q / 2 ^ e| ≤ 1 / 2) (hlt : gridExponent q < e) :
    m = 2 ^ 52 ∧ -1074 < e ∧ q / 2 ^ e < 2 ^ 52 ∧ gridExponent q = e - 1 := by
  have hunit : (0 : ℚ) < 2 ^ e := by positivity
  have hleast := least_le_gridExponent q
  have hlow : 2 ^ 52 ≤ m := hb.leading.resolve_right (by dsimp only; omega)
  have hbelow (j : ℕ) (hj : gridExponent q + 53 ≤ j + e) : q / 2 ^ e < 2 ^ j := by
    rw [div_lt_iff₀ hunit, ← zpow_natCast, ← zpow_add₀ two_ne_zero, ← abs_of_pos hq]
    exact (abs_lt_of_gridExponent q).trans_le (zpow_le_zpow_right₀ one_le_two hj)
  have hlt52 : q / 2 ^ e < 2 ^ 52 := hbelow 52 (by omega)
  have hlow' : (2 ^ 52 : ℚ) ≤ m := by exact_mod_cast hlow
  obtain ⟨hge, hle⟩ := abs_le.1 hclose
  refine ⟨le_antisymm ?_ hlow, by omega, hlt52, le_antisymm (by omega) (not_lt.1 fun hfine => ?_)⟩
  · have hm : (m : ℚ) < 2 ^ 52 + 1 := by linarith
    exact Nat.lt_add_one_iff.1 (by exact_mod_cast hm)
  · have hlt51 : q / 2 ^ e < 2 ^ 51 := hbelow 51 (by omega)
    have hgap : (2 : ℚ) ^ 51 + 1 / 2 < 2 ^ 52 := by norm_num
    linarith

/-- The grid of a number is not coarser than the double it is rounded to. -/
theorem gridExponent_le_of_rounded {b : Binary} (hq : 0 < q) (h : Rounded q b) :
    gridExponent q ≤ b.exponent := by
  by_contra hgt
  have hleast := h.canonical.least_le
  have hleading := (le_abs_of_gridExponent hq.ne').resolve_right (by omega)
  rw [abs_of_pos hq, add_comm, zpow_add₀ two_ne_zero] at hleading
  have hge := h.ge_of_ge (j := 2 ^ 52) (by exact_mod_cast hleading)
  have hlt := (le_abs_self _).trans_lt h.canonical.abs_value_lt
  have hpow : (2 : ℚ) ^ (b.exponent + 53) ≤ (2 ^ 52 : ℤ) * 2 ^ gridExponent q := by
    calc (2 : ℚ) ^ (b.exponent + 53) ≤ 2 ^ (52 + gridExponent q) :=
          zpow_le_zpow_right₀ one_le_two (by omega)
      _ = (2 ^ 52 : ℤ) * 2 ^ gridExponent q := by
        rw [zpow_add₀ two_ne_zero]
        push_cast
        rfl
  linarith

/-- One step finer there are twice as many units. -/
theorem div_gridExponent (h : gridExponent q = e - 1) :
    q / 2 ^ gridExponent q = 2 * (q / 2 ^ e) := by
  rw [h, zpow_sub_one₀ two_ne_zero]
  field_simp

theorem nearestInt_of_rounded (h : Rounded q ⟨false, m, e⟩) (hq : 0 < q) :
    NearestInt (q / 2 ^ e) m ∧ (m = 2 ^ 52 ∧ -1074 < e → m - 1 / 4 ≤ q / 2 ^ e) := by
  have hunit : (0 : ℚ) < 2 ^ e := by positivity
  have hvalue : Binary.value ⟨false, m, e⟩ = m * 2 ^ e := rfl
  obtain ⟨n, hn, hn', -⟩ := h.exists_nearestInt
  rw [hvalue] at hn'
  rcases (gridExponent_le_of_rounded hq h).eq_or_lt with heq | hlt
  · dsimp only at heq
    rw [heq] at hn hn'
    have hnm : n = m := by exact_mod_cast (mul_right_cancel₀ hunit.ne' hn').symm
    refine ⟨hnm ▸ hn, ?_⟩
    rintro ⟨rfl, he⟩
    have hleading := (le_abs_of_gridExponent hq.ne').resolve_right (by omega)
    rw [heq, abs_of_pos hq, add_comm, zpow_add₀ two_ne_zero, ← le_div_iff₀ hunit] at hleading
    push_cast
    linarith
  · have hclose : |m - q / 2 ^ e| ≤ 1 / 2 := by
      have hsub : m - q / 2 ^ e = (m * 2 ^ e - q) / 2 ^ e := by
        rw [sub_div, mul_div_cancel_right₀ _ hunit.ne']
      rw [hsub, abs_div, abs_of_pos hunit, div_le_iff₀ hunit, ← hvalue]
      refine h.abs_sub_le.trans ?_
      linarith [zpow_le_zpow_right₀ (one_le_two (α := ℚ)) hlt.le]
    -- The unit of the grid is half of that of the double.
    obtain ⟨rfl, -, -, hgrid⟩ := of_gridExponent_lt h.canonical hq hclose hlt
    have hn53 : (n : ℚ) = 2 ^ 53 := by
      rw [hgrid, zpow_sub_one₀ two_ne_zero, ← mul_assoc, mul_right_comm] at hn'
      have := mul_right_cancel₀ hunit.ne' hn'
      push_cast at this
      linarith
    obtain ⟨hge, hle⟩ := abs_le.1 hn.close
    rw [div_gridExponent hgrid, hn53] at hge hle
    push_cast
    refine ⟨.of_lt ?_, fun _ => by linarith⟩
    push_cast
    rw [abs_lt]
    constructor <;> linarith

theorem rounded_of_nearestInt_div (hb : Binary.Canonical ⟨false, m, e⟩) (hq : 0 < q)
    (hnearest : NearestInt (q / 2 ^ e) m)
    (hquarter : m = 2 ^ 52 ∧ -1074 < e → m - 1 / 4 ≤ q / 2 ^ e) : Rounded q ⟨false, m, e⟩ := by
  have hunit : (0 : ℚ) < 2 ^ e := by positivity
  have hvalue : Binary.value ⟨false, m, e⟩ = m * 2 ^ e := rfl
  have hclose := hnearest.close
  rw [Int.cast_natCast] at hclose
  have hle : gridExponent q ≤ e := by
    refine (gridExponent_le_iff hq.ne').2 ⟨?_, hb.least_le⟩
    have hlt : (m : ℚ) + 1 ≤ 2 ^ (53 : ℤ) := by exact_mod_cast hb.lt
    rw [abs_of_pos hq, add_comm, zpow_add₀ two_ne_zero, ← div_lt_iff₀ hunit]
    linarith [(abs_le.1 hclose).1]
  rcases hle.eq_or_lt with heq | hlt
  · exact ⟨hb, m, heq.symm ▸ hnearest, heq.symm ▸ hvalue, (Int.even_coe_nat m).1⟩
  · obtain ⟨rfl, he, hbelow, hgrid⟩ := of_gridExponent_lt hb hq hclose hlt
    have hquarter := hquarter ⟨rfl, he⟩
    have heven : Even (2 ^ 52 : ℕ) := by decide
    push_cast at hquarter
    refine ⟨hb, 2 ^ 53, ⟨?_, fun _ => by decide⟩, ?_, fun _ => heven⟩
    · rw [div_gridExponent hgrid, abs_le]
      push_cast
      constructor <;> linarith
    · rw [hvalue, hgrid, zpow_sub_one₀ two_ne_zero]
      push_cast
      ring

/-- **The neighbourhood** of a double is the numbers that the double is nearest to. -/
theorem rounded_iff_contains (hb : Binary.Canonical ⟨false, m, e⟩) (hm : 0 < m) (hq : 0 < q) :
    Rounded q ⟨false, m, e⟩ ↔ (neighbourhood m e).Contains q := by
  have hunit : (0 : ℚ) < 2 ^ e := by positivity
  have hquotient := contains_neighbourhood_iff (e := e) hm (q / 2 ^ e)
  rw [div_mul_cancel₀ q hunit.ne'] at hquotient
  rw [hquotient]
  exact ⟨fun h => nearestInt_of_rounded h hq, fun h => rounded_of_nearestInt_div hb hq h.1 h.2⟩

/-! ## A grid -/

/-- A power times the positive part of the opposite exponent leaves the positive part. -/
theorem zpow_mul_pow_toNat {a : ℚ} (ha : a ≠ 0) (k : ℤ) : a ^ k * a ^ (-k).toNat = a ^ k.toNat := by
  rw [← zpow_natCast, ← zpow_natCast, ← zpow_add₀ ha]
  congr 1
  omega

/-- One unit in which the powers of ten and of two are both whole. -/
theorem gridRatio_spec (k p : ℤ) : ∃ u : ℚ, 0 < u ∧ (10 : ℚ) ^ k = (gridRatio k p).1 * u ∧
    (2 : ℚ) ^ p = (gridRatio k p).2 * u := by
  have hten := zpow_mul_pow_toNat (a := 10) (by norm_num) k
  have htwo := zpow_mul_pow_toNat (a := 2) (by norm_num) p
  have htop : (gridRatio k p).1 = 10 ^ k.toNat * 2 ^ (-p).toNat := rfl
  have hbottom : (gridRatio k p).2 = 10 ^ (-k).toNat * 2 ^ p.toNat := rfl
  rw [htop, hbottom]
  push_cast
  refine ⟨2 ^ p / (10 ^ (-k).toNat * 2 ^ p.toNat), by positivity, ?_, ?_⟩
  · rw [← mul_div_assoc, eq_div_iff (by positivity), ← hten, ← htwo]
    ring
  · rw [mul_div_cancel₀ _ (by positivity)]

/-- How far a number is from the double. -/
def Neighbourhood.distance (h : Neighbourhood) (q : ℚ) : ℚ := |q - h.centre * 2 ^ h.exponent|

/-- Of the points of a grid the one below the double is nearer than all lesser ones, and in the
neighbourhood if one of them is. -/
theorem Neighbourhood.point_below {t : ℚ} {c j : ℕ} (hcentre : h.Contains (h.centre * 2 ^ h.exponent))
    (ht : 0 < t) (hc : c * t ≤ h.centre * 2 ^ h.exponent) (hj : j ≤ c) (hcontains : h.Contains (j * t)) :
    h.Contains (c * t) ∧ h.distance (c * t) ≤ h.distance (j * t) := by
  have hle : (j : ℚ) * t ≤ c * t := mul_le_mul_of_nonneg_right (Nat.cast_le.2 hj) ht.le
  refine ⟨hcontains.between hcentre hle hc, ?_⟩
  rw [distance, distance, abs_of_nonpos (by linarith), abs_of_nonpos (by linarith)]
  linarith

/-- So is the one above the double. -/
theorem Neighbourhood.point_above {t : ℚ} {c j : ℕ} (hcentre : h.Contains (h.centre * 2 ^ h.exponent))
    (ht : 0 < t) (hc : h.centre * 2 ^ h.exponent ≤ c * t) (hj : c ≤ j) (hcontains : h.Contains (j * t)) :
    h.Contains (c * t) ∧ h.distance (c * t) ≤ h.distance (j * t) := by
  have hle : (c : ℚ) * t ≤ j * t := mul_le_mul_of_nonneg_right (Nat.cast_le.2 hj) ht.le
  refine ⟨hcentre.between hcontains hc hle, ?_⟩
  rw [distance, distance, abs_of_nonneg (by linarith), abs_of_nonneg (by linarith)]
  linarith

section Units

variable {u : ℚ} {top bottom : ℕ} (hu : 0 < u) (hten : (10 : ℚ) ^ k = top * u)
  (htwo : (2 : ℚ) ^ h.exponent = bottom * u)
include hu hten htwo

theorem mul_ten_le_iff (c n : ℕ) :
    (c : ℚ) * 10 ^ k ≤ n * 2 ^ h.exponent ↔ c * top ≤ n * bottom := by
  rw [hten, htwo, ← mul_assoc, ← mul_assoc, mul_le_mul_iff_left₀ hu]
  exact_mod_cast Iff.rfl

theorem mul_two_le_iff (n c : ℕ) :
    (n : ℚ) * 2 ^ h.exponent ≤ c * 10 ^ k ↔ n * bottom ≤ c * top := by
  rw [hten, htwo, ← mul_assoc, ← mul_assoc, mul_le_mul_iff_left₀ hu]
  exact_mod_cast Iff.rfl

/-- In whole units it is tested whether a point is in the neighbourhood. -/
theorem inside_iff (c : ℕ) : (if h.closed = true then
    decide (h.low * bottom ≤ c * top) && decide (c * top ≤ h.high * bottom)
    else decide (h.low * bottom < c * top) && decide (c * top < h.high * bottom)) = true ↔
      h.Contains (c * 10 ^ k) := by
  rw [Neighbourhood.Contains, ← not_le (b := (c : ℚ) * 10 ^ k), ← not_le (a := (c : ℚ) * 10 ^ k),
    mul_ten_le_iff hu hten htwo, mul_two_le_iff hu hten htwo, mul_ten_le_iff hu hten htwo,
    mul_two_le_iff hu hten htwo, not_le, not_le]
  split <;> rw [Bool.and_eq_true, decide_eq_true_eq, decide_eq_true_eq]

/-- So it is tested which of two points around the double is nearer. -/
theorem nearer_iff {c n : ℕ} (hc : c * top ≤ h.centre * bottom) (hn : h.centre * bottom ≤ n * top) :
    h.centre * bottom - c * top ≤ n * top - h.centre * bottom ↔
      h.distance (c * 10 ^ k) ≤ h.distance (n * 10 ^ k) := by
  have hc' := (mul_ten_le_iff hu hten htwo c h.centre).2 hc
  have hn' := (mul_two_le_iff hu hten htwo h.centre n).2 hn
  rw [Neighbourhood.distance, abs_of_nonpos (sub_nonpos.2 hc'), Neighbourhood.distance,
    abs_of_nonneg (sub_nonneg.2 hn'), neg_sub, hten, htwo, ← mul_assoc, ← mul_assoc, ← mul_assoc,
    ← sub_mul, ← sub_mul, mul_le_mul_iff_left₀ hu, ← Nat.cast_mul, ← Nat.cast_mul, ← Nat.cast_mul,
    ← Nat.cast_sub hc, ← Nat.cast_sub hn, Nat.cast_le]

end Units

/-- A grid has no point in a neighbourhood, or the one that is found is the nearest of them. -/
theorem gridPoint?_spec (hlow : h.low < h.centre) (hhigh : h.centre < h.high) (k : ℤ) :
    match gridPoint? h k with
    | some c => h.Contains (c * 10 ^ k) ∧
        ∀ j : ℕ, h.Contains (j * 10 ^ k) → h.distance (c * 10 ^ k) ≤ h.distance (j * 10 ^ k)
    | none => ∀ j : ℕ, ¬h.Contains (j * 10 ^ k) := by
  have hcentre := h.contains_centre hlow hhigh
  have hpos : (0 : ℚ) < 10 ^ k := by positivity
  obtain ⟨u, hu, hten, htwo⟩ := gridRatio_spec k h.exponent
  rw [gridPoint?]
  generalize gridRatio k h.exponent = ratio at hten htwo ⊢
  obtain ⟨top, bottom⟩ := ratio
  dsimp only at hten htwo ⊢
  have htop : 0 < top := by
    refine Nat.pos_of_ne_zero fun h0 => hpos.ne' ?_
    rw [hten, h0, Nat.cast_zero, zero_mul]
  obtain ⟨below, hbelow⟩ : ∃ below, h.centre * bottom / top = below := ⟨_, rfl⟩
  rw [hbelow]
  have hle : below * top ≤ h.centre * bottom := hbelow ▸ Nat.div_mul_le_self _ _
  have hlt : h.centre * bottom ≤ (below + 1) * top :=
    ((Nat.div_lt_iff_lt_mul htop).1 (hbelow ▸ Nat.lt_succ_self _)).le
  have hle' := (mul_ten_le_iff hu hten htwo below h.centre).2 hle
  have hlt' := (mul_two_le_iff hu hten htwo h.centre (below + 1)).2 hlt
  -- Any point is on one side of the double, and so the point next to it there will do.
  have hside (j : ℕ) (hj : h.Contains (j * 10 ^ k)) :
      h.Contains (below * 10 ^ k) ∧ h.distance (below * 10 ^ k) ≤ h.distance (j * 10 ^ k) ∨
      h.Contains ((below + 1 : ℕ) * 10 ^ k) ∧
        h.distance ((below + 1 : ℕ) * 10 ^ k) ≤ h.distance (j * 10 ^ k) := by
    rcases Nat.lt_or_ge below j with hgt | hle
    · exact .inr (h.point_above hcentre hpos hlt' hgt hj)
    · exact .inl (h.point_below hcentre hpos hle' hle hj)
  have hin (c : ℕ) := inside_iff hu hten htwo c
  have hnearer := nearer_iff hu hten htwo hle hlt
  by_cases hb : h.Contains (below * 10 ^ k) <;>
    by_cases ha : h.Contains ((below + 1 : ℕ) * 10 ^ k)
  · rw [(hin _).2 hb, (hin _).2 ha]
    dsimp only
    by_cases hnear : h.distance (below * 10 ^ k) ≤ h.distance ((below + 1 : ℕ) * 10 ^ k)
    · rw [if_pos (hnearer.2 hnear)]
      exact ⟨hb, fun j hj => (hside j hj).elim And.right fun h => hnear.trans h.2⟩
    · rw [if_neg (mt hnearer.1 hnear)]
      exact ⟨ha, fun j hj => (hside j hj).elim (fun h => (le_of_not_ge hnear).trans h.2) And.right⟩
  · rw [(hin _).2 hb, Bool.eq_false_iff.2 (mt (hin _).1 ha)]
    exact ⟨hb, fun j hj => (hside j hj).elim And.right fun h => absurd h.1 ha⟩
  · rw [Bool.eq_false_iff.2 (mt (hin _).1 hb), (hin _).2 ha]
    exact ⟨ha, fun j hj => (hside j hj).elim (fun h => absurd h.1 hb) And.right⟩
  · rw [Bool.eq_false_iff.2 (mt (hin _).1 hb), Bool.eq_false_iff.2 (mt (hin _).1 ha)]
    exact fun j hj => (hside j hj).elim (fun h => hb h.1) fun h => ha h.1

/-! ## The search -/

/-- The search stops at the first grid that has a point. -/
theorem coarsest_spec (steps : ℕ) (hex : ∃ i < steps, gridPoint? h (k - i) ≠ none) :
    (coarsest h steps k).exponent ≤ k ∧
      gridPoint? h (coarsest h steps k).exponent = some (coarsest h steps k).coefficient ∧
      ∀ j ≤ k, (coarsest h steps k).exponent < j → gridPoint? h j = none := by
  induction steps generalizing k with
  | zero => simp at hex
  | succ steps ih =>
    rw [coarsest]
    split
    · exact ⟨le_rfl, ‹_›, fun j hj hlt => absurd hj (not_le.2 hlt)⟩
    · have hnone : gridPoint? h k = none := ‹_›
      obtain ⟨i, hi, hpoint⟩ := hex
      obtain ⟨i, rfl⟩ : ∃ i', i = i' + 1 := by
        refine Nat.exists_eq_succ_of_ne_zero ?_
        rintro rfl
        exact hpoint (by simpa using hnone)
      have hshift : k - ((i + 1 : ℕ) : ℤ) = k - 1 - i := by omega
      obtain ⟨hle, hfound, habove⟩ := ih (k := k - 1) ⟨i, by omega, hshift ▸ hpoint⟩
      refine ⟨by omega, hfound, fun j hj hlt => ?_⟩
      rcases hj.eq_or_lt with rfl | hj'
      · exact hnone
      · exact habove j (by omega) hlt

/-- On a grid as fine as the neighbourhood there is a point. -/
theorem gridPoint?_ne_none (hlow : h.low < h.centre) (hhigh : h.centre < h.high)
    (hk : (10 : ℚ) ^ k ≤ 2 ^ h.exponent) : gridPoint? h k ≠ none := by
  intro hnone
  have hspec := gridPoint?_spec hlow hhigh k
  rw [hnone] at hspec
  have hpos : (0 : ℚ) < 10 ^ k := by positivity
  have hunit : (0 : ℚ) < 2 ^ h.exponent := by positivity
  have hfloor := Nat.floor_le (a := h.centre * 2 ^ h.exponent / (10 : ℚ) ^ k) (by positivity)
  have hfloor' := Nat.lt_floor_add_one (h.centre * 2 ^ h.exponent / (10 : ℚ) ^ k)
  rw [le_div_iff₀ hpos] at hfloor
  rw [div_lt_iff₀ hpos, add_mul, one_mul] at hfloor'
  have hlow' : ((h.low : ℚ) + 1) * 2 ^ h.exponent ≤ h.centre * 2 ^ h.exponent :=
    mul_le_mul_of_nonneg_right (by exact_mod_cast hlow) hunit.le
  have hhigh' : (h.centre : ℚ) * 2 ^ h.exponent < h.high * 2 ^ h.exponent :=
    mul_lt_mul_of_pos_right (by exact_mod_cast hhigh) hunit
  rw [add_mul, one_mul] at hlow'
  exact hspec _ (.of_lt (by linarith) (hfloor.trans_lt hhigh'))

/-- A grid whose unit is past the neighbourhood has no point in it. -/
theorem not_contains_of_high_lt (h0 : 0 < h.low) (hk : h.high * 2 ^ h.exponent < (10 : ℚ) ^ k)
    (j : ℕ) : ¬h.Contains (j * 10 ^ k) := by
  intro hj
  have hpos : (0 : ℚ) < 10 ^ k := by positivity
  rcases Nat.eq_zero_or_pos j with rfl | hj0
  · have hlow : (0 : ℚ) < h.low * 2 ^ h.exponent := by positivity
    rw [Nat.cast_zero, zero_mul] at hj
    exact absurd hj.low_le (not_le.2 hlow)
  · have hle : (10 : ℚ) ^ k ≤ j * 10 ^ k := le_mul_of_one_le_left hpos.le (by exact_mod_cast hj0)
    exact absurd hj.le_high (not_le.2 (hk.trans_le hle))

/-! ## The shortest decimal -/

/-- The number that a decimal writes. -/
def Scientific.value (s : Scientific) : ℚ := s.coefficient * 10 ^ s.exponent

/-- A decimal that is read as a double, on the coarsest grid that has one, and nearest to the double
among those of its grid. -/
structure IsShortest (b : Binary) (s : Scientific) : Prop where
  rounded : Rounded s.value b
  not_rounded : ∀ (c : ℕ) (k : ℤ), s.exponent < k → ¬Rounded (c * 10 ^ k) b
  nearest : ∀ c : ℕ, Rounded (c * 10 ^ s.exponent) b →
    |s.value - b.value| ≤ |c * 10 ^ s.exponent - b.value|

theorem centre_mul (m : ℕ) (e : ℤ) :
    ((neighbourhood m e).centre : ℚ) * 2 ^ (neighbourhood m e).exponent = m * 2 ^ e := by
  show ((4 * m : ℕ) : ℚ) * 2 ^ (e - 2) = m * 2 ^ e
  rw [zpow_sub₀ two_ne_zero]
  push_cast
  ring

theorem centre_lt_high (m : ℕ) (e : ℤ) : (neighbourhood m e).centre < (neighbourhood m e).high :=
  Nat.lt_add_of_pos_right two_pos

/-- The neighbourhood ends before the next power of two. -/
theorem high_mul_lt (m : ℕ) (e : ℤ) :
    (neighbourhood m e).high * 2 ^ (neighbourhood m e).exponent < (2 : ℚ) ^ (m.log2 + 1 + e) := by
  have hself : (m : ℚ) + 1 ≤ 2 ^ (m.log2 + 1) := by exact_mod_cast Nat.lt_log2_self
  calc ((4 * m + 2 : ℕ) : ℚ) * 2 ^ (e - 2) = (m + 1 / 2) * 2 ^ e := by
        rw [zpow_sub₀ two_ne_zero]
        push_cast
        ring
    _ < 2 ^ (m.log2 + 1) * 2 ^ e := mul_lt_mul_of_pos_right (by linarith) (by positivity)
    _ = 2 ^ (m.log2 + 1 + e) := by rw [zpow_add₀ two_ne_zero]; rfl

/-- The search starts where no grid has a point, and comes to one that is fine enough. -/
theorem shortest_search (hb : Binary.Canonical ⟨false, m, e⟩) (hm : 0 < m) :
    gridPoint? (neighbourhood m e) (shortest m e).exponent = some (shortest m e).coefficient ∧
      ∀ (c : ℕ) (k : ℤ), (shortest m e).exponent < k →
        ¬(neighbourhood m e).Contains (c * 10 ^ k) := by
  have hm53 : m < 2 ^ 53 := hb.lt
  have hleast : -1074 ≤ e := hb.least_le
  have hgreatest : e ≤ 971 := hb.le_greatest
  have hlog : m.log2 < 53 := (Nat.log2_lt hm.ne').2 hm53
  have hlow := low_lt_centre e hm
  have hhigh := centre_lt_high m e
  obtain ⟨start, hstart⟩ : ∃ start, ((m.log2 : ℤ) + e) * 30103 / 100000 + 2 = start := ⟨_, rfl⟩
  have hfine : (10 : ℚ) ^ (start - 29) ≤ 2 ^ (e - 2) := ten_zpow_le_two_zpow (by omega) (by omega)
  obtain ⟨hle, hfound, habove⟩ := coarsest_spec (h := neighbourhood m e) (k := start) 30
    ⟨29, by norm_num, gridPoint?_ne_none hlow hhigh hfine⟩
  have hshortest : shortest m e = coarsest (neighbourhood m e) 30 start := by
    rw [← hstart]
    rfl
  rw [hshortest]
  refine ⟨hfound, fun c k hk => ?_⟩
  rcases le_or_gt k start with hks | hks
  · have hnone := gridPoint?_spec hlow hhigh k
    rw [habove k hks hk] at hnone
    exact hnone c
  · have hcoarse : (2 : ℚ) ^ (m.log2 + 1 + e) ≤ 10 ^ k := two_zpow_le_ten_zpow (by omega) (by omega)
    exact not_contains_of_high_lt (low_pos e hm) ((high_mul_lt m e).trans_le hcoarse) c

/-- A decimal that is read as a positive double is in its neighbourhood, and conversely. -/
theorem rounded_decimal_iff (hb : Binary.Canonical ⟨false, m, e⟩) (hm : 0 < m) (c : ℕ) (k : ℤ) :
    Rounded (c * 10 ^ k) ⟨false, m, e⟩ ↔ (neighbourhood m e).Contains (c * 10 ^ k) := by
  rcases Nat.eq_zero_or_pos c with rfl | hc
  · rw [Nat.cast_zero, zero_mul]
    refine iff_of_false (fun h => ?_) fun h => ?_
    · have hvalue : (0 : ℚ) < m * 2 ^ e := by positivity
      exact hvalue.ne' (h.value_eq (j := 0) (by rw [Int.cast_zero, zero_mul]))
    · have hlow : (0 : ℚ) < (neighbourhood m e).low * 2 ^ (neighbourhood m e).exponent := by
        have := low_pos e hm
        positivity
      exact absurd h.low_le (not_le.2 hlow)
  · exact rounded_iff_contains hb hm (by positivity)

/-- **The shortest decimal** of a positive double. -/
theorem isShortest_shortest (hb : Binary.Canonical ⟨false, m, e⟩) (hm : 0 < m) :
    IsShortest ⟨false, m, e⟩ (shortest m e) := by
  obtain ⟨hfound, hnone⟩ := shortest_search hb hm
  have hpoint := gridPoint?_spec (low_lt_centre e hm) (centre_lt_high m e) (shortest m e).exponent
  rw [hfound] at hpoint
  obtain ⟨hcontains, hnearest⟩ := hpoint
  refine ⟨(rounded_decimal_iff hb hm _ _).2 hcontains,
    fun c k hk => mt (rounded_decimal_iff hb hm c k).1 (hnone c k hk), fun c hc => ?_⟩
  have hdistance := hnearest c ((rounded_decimal_iff hb hm _ _).1 hc)
  rw [Neighbourhood.distance, Neighbourhood.distance, centre_mul] at hdistance
  exact hdistance

/-- Its grid begins with the integers where the double is one. -/
theorem exponent_shortest_nonneg (hb : Binary.Canonical ⟨false, m, e⟩) (hm : 0 < m) (he : 0 ≤ e) :
    0 ≤ (shortest m e).exponent := by
  obtain ⟨k, rfl⟩ := Int.eq_ofNat_of_zero_le he
  by_contra hlt
  refine (isShortest_shortest hb hm).not_rounded (m * 2 ^ k) 0 (not_le.1 hlt) ?_
  have hself := rounded_value hb
  have hvalue : Binary.value ⟨false, m, k⟩ = (m * 2 ^ k : ℕ) * 10 ^ (0 : ℤ) := by
    rw [Binary.value, zpow_zero, mul_one, Nat.cast_mul, Nat.cast_pow]
    rfl
  rwa [hvalue] at hself

/-- It is below the next power of two. -/
theorem shortest_value_lt (hb : Binary.Canonical ⟨false, m, e⟩) (hm : 0 < m) :
    (shortest m e).value < 2 ^ (m.log2 + 1 + e) := by
  have hcontains := (rounded_decimal_iff hb hm _ _).1 (isShortest_shortest hb hm).rounded
  exact hcontains.le_high.trans_lt (high_mul_lt m e)

/-- **No decimal with fewer digits** is read as the double: between it and the shortest one there
would be a power of ten. -/
theorem length_shortest_le (hb : Binary.Canonical ⟨false, m, e⟩) (hm : 0 < m) {c : ℕ}
    (hc : Rounded (c * 10 ^ k) ⟨false, m, e⟩) :
    (digits (shortest m e).coefficient).length ≤ (digits c).length := by
  obtain ⟨hrounded, hnot, -⟩ := isShortest_shortest hb hm
  generalize shortest m e = s at hrounded hnot ⊢
  rw [Scientific.value, rounded_decimal_iff hb hm] at hrounded
  rw [length_digits, length_digits]
  by_contra hlt
  have hten : (10 : ℚ) ≠ 0 := by norm_num
  have hk : k ≤ s.exponent := not_lt.1 fun hk => hnot c k hk hc
  have hhigh : 10 ^ (Nat.log 10 c + 1) ≤ s.coefficient := by
    have h0 : s.coefficient ≠ 0 := by
      intro h0
      rw [h0, Nat.log_zero_right] at hlt
      omega
    exact (Nat.pow_le_pow_right (by norm_num) (by omega)).trans (Nat.pow_log_le_self 10 h0)
  have hlow : c ≤ 10 ^ (Nat.log 10 c + 1) := (Nat.lt_pow_succ_log_self (by norm_num) c).le
  have hpower : ((1 : ℕ) : ℚ) * 10 ^ ((Nat.log 10 c + 1 : ℕ) + s.exponent) =
      (10 ^ (Nat.log 10 c + 1) : ℕ) * 10 ^ s.exponent := by
    rw [Nat.cast_one, one_mul, zpow_add₀ hten, zpow_natCast, Nat.cast_pow, Nat.cast_ofNat]
  refine hnot 1 ((Nat.log 10 c + 1 : ℕ) + s.exponent) (by omega) ?_
  rw [rounded_decimal_iff hb hm] at hc ⊢
  rw [hpower]
  refine hc.between hrounded ?_ ?_
  · exact mul_le_mul (Nat.cast_le.2 hlow) (zpow_le_zpow_right₀ (by norm_num) hk) (by positivity)
      (by positivity)
  · exact mul_le_mul_of_nonneg_right (Nat.cast_le.2 hhigh) (by positivity)

end Assessment.Decimal
