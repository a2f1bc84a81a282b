/-!
# Integers in 64 bits

Integer values hold 64 bits, sign included. Arithmetic on them is done on unbounded integers; `fit?`
brings a result back and is `none` where it does not fit, which is what the checked operations of
the processor give (`checked_add`, `checked_mul` and the others).

Headlines:
* `fit?_eq_some_iff`: `fit? n` is the word whose value is `n`.
* `fit?_isSome_iff`: it exists exactly between the least and the greatest word.
-/

namespace Assessment.Numeric

/-- The 64-bit integer of value `n`, when there is one. -/
def fit? (n : Int) : Option Int64 :=
  if Int64.minValue.toInt ≤ n ∧ n ≤ Int64.maxValue.toInt then some (Int64.ofInt n) else none

theorem fit?_isSome_iff (n : Int) :
    (fit? n).isSome ↔ Int64.minValue.toInt ≤ n ∧ n ≤ Int64.maxValue.toInt := by
  unfold fit?
  split <;> simp_all

theorem fit?_eq_some_iff (n : Int) (i : Int64) : fit? n = some i ↔ i.toInt = n := by
  unfold fit?
  constructor
  · intro h
    split at h
    · rename_i hn
      rw [← Option.some.inj h, Int64.toInt_ofInt_of_le hn.1 (Int.lt_add_one_of_le hn.2)]
    · cases h
  · rintro rfl
    have h1 : Int64.minValue.toInt ≤ i.toInt := Int64.le_toInt i
    have h2 : i.toInt ≤ Int64.maxValue.toInt := Int.le_of_lt_add_one (Int64.toInt_lt i)
    rw [if_pos ⟨h1, h2⟩, Int64.ofInt_toInt]

@[simp] theorem fit?_toInt (i : Int64) : fit? i.toInt = some i :=
  (fit?_eq_some_iff _ _).2 rfl

theorem toInt_eq_zero_iff {i : Int64} : i.toInt = 0 ↔ i = 0 := by
  rw [← Int64.toInt_zero, Int64.toInt_inj]

theorem toInt_ne_zero {i : Int64} (h : i ≠ 0) : i.toInt ≠ 0 := mt toInt_eq_zero_iff.1 h

/-- The double nearest to an integer. -/
def toFloat (i : Int64) : Float := Float.ofInt i.toInt

end Assessment.Numeric
