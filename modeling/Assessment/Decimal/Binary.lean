/-!
# Doubles as exact numbers

A finite double is `± mantissa * 2 ^ exponent`. `Binary.ofFloat?` reads the three parts off its
bits, and the roundings to an integer are done on them in exact arithmetic: down, up, toward zero,
and to the nearest with ties to the even neighbour. They stand for the library functions `floor`,
`ceil`, `trunc` and `round_ties_even`, which are exact as well.

Headlines:
* `nearestEven_close`: the nearest integer is at most half a unit away.
* `nearestEven_tie`: from half a unit away it is even.
-/

namespace Assessment.Decimal

/-! ## Rounding a quotient -/

/-- The quotient rounded up. -/
def ceilDiv (n d : Int) : Int := -(Int.fdiv (-n) d)

/-- The integer nearest to `n / d`, for a positive `d`; a tie goes to the even neighbour. -/
def nearestEven (n d : Int) : Int :=
  let q := n / d
  let r := n % d
  if 2 * r < d then q
  else if d < 2 * r then q + 1
  else if q % 2 = 0 then q else q + 1

theorem nearestEven_close {n d : Int} (hd : 0 < d) :
    -d ≤ 2 * (d * nearestEven n d - n) ∧ 2 * (d * nearestEven n d - n) ≤ d := by
  have h := Int.mul_ediv_add_emod n d
  have h0 := Int.emod_nonneg n (Int.ne_of_gt hd)
  have h1 := Int.emod_lt_of_pos n hd
  have e : d * (n / d + 1) = d * (n / d) + d := by rw [Int.mul_add, Int.mul_one]
  unfold nearestEven
  dsimp only
  split
  · constructor <;> omega
  · split
    · rw [e]; constructor <;> omega
    · split
      · constructor <;> omega
      · rw [e]; constructor <;> omega

theorem nearestEven_tie {n d : Int} (h : 2 * (n % d) = d) : nearestEven n d % 2 = 0 := by
  unfold nearestEven
  simp only [h, Int.lt_irrefl, if_false]
  split <;> omega

/-! ## The parts of a double -/

/-- A finite double: its sign, and its magnitude as `mantissa * 2 ^ exponent`. -/
structure Binary where
  negative : Bool
  mantissa : Nat
  exponent : Int
deriving Repr, DecidableEq

namespace Binary

/-- The place of the leading bit, which the bits of a normal double leave out. -/
def leadingBit : Nat := 4503599627370496

/-- The parts of a double that is finite: 52 bits of fraction, eleven of exponent and the sign. -/
def ofFloat? (x : Float) : Option Binary :=
  let bits := x.toBits.toNat
  let field := bits / leadingBit % 2048
  let fraction := bits % leadingBit
  let negative := decide (2048 ≤ bits / leadingBit)
  if field = 2047 then none
  else if field = 0 then some ⟨negative, fraction, -1074⟩
  else some ⟨negative, leadingBit + fraction, (field : Int) - 1075⟩

/-- The mantissa with the sign. -/
def signed (b : Binary) : Int := if b.negative then -b.mantissa else b.mantissa

/-- The value rounded by a rule for quotients. -/
def roundBy (rule : Int → Int → Int) (b : Binary) : Int :=
  if 0 ≤ b.exponent then b.signed * (Nat.pow 2 b.exponent.toNat : Nat)
  else rule b.signed (Nat.pow 2 (-b.exponent).toNat : Nat)

/-- The greatest integer that is not above the value. -/
def floor (b : Binary) : Int := b.roundBy Int.fdiv

/-- The least integer that is not below the value. -/
def ceil (b : Binary) : Int := b.roundBy ceilDiv

/-- The value without its fraction. -/
def truncate (b : Binary) : Int := b.roundBy Int.tdiv

/-- The nearest integer, the even one of two. -/
def nearest (b : Binary) : Int := b.roundBy nearestEven

end Binary

/-- A double rounded to an integer and kept as a double; a zero keeps the sign of the operand. -/
def roundFloat (rule : Binary → Int) (x : Float) : Float :=
  match Binary.ofFloat? x with
  | none => x
  | some b =>
    let n := rule b
    if n = 0 then (if b.negative then -0.0 else 0.0) else Float.ofInt n

end Assessment.Decimal
