import Assessment.Numeric.Bounded

/-!
# Integer arithmetic

The integer helpers behind integerDivide, integerModulus, gcd, lcm, sum and product: `floor_div`,
`floor_mod`, `gcd`, `lcm` and the checked folds of `eval_expr`.

* Division and remainder round the quotient down.
* Every result is brought back to 64 bits, and so is each intermediate one: where a step does not
  fit there is no result, even if the result itself would fit. The product of `floor_mod`, the
  absolute values of `gcd_pair`, and the partial sums of a fold are such steps.
* `euclid` is the loop of `gcd_pair` on natural numbers; its second argument decreases.
-/

namespace Assessment.Numeric

/-- The sum of two integers. -/
def add? (a b : Int64) : Option Int64 := fit? (a.toInt + b.toInt)

/-- The difference of two integers. -/
def sub? (a b : Int64) : Option Int64 := fit? (a.toInt - b.toInt)

/-- The product of two integers. -/
def mul? (a b : Int64) : Option Int64 := fit? (a.toInt * b.toInt)

/-- The magnitude of an integer. -/
def abs? (a : Int64) : Option Int64 := fit? a.toInt.natAbs

/-- The quotient rounded toward zero; none for a divisor of zero. -/
def div? (a b : Int64) : Option Int64 :=
  if b = 0 then none else fit? (Int.tdiv a.toInt b.toInt)

/-- The remainder that goes with `div?`, with the sign of the dividend; none without a quotient. -/
def rem? (a b : Int64) : Option Int64 :=
  (div? a b).bind fun _ => fit? (Int.tmod a.toInt b.toInt)

/-- The quotient rounded down; none for a divisor of zero (`floor_div`). It is one less than the
quotient rounded toward zero when there is a remainder and the signs differ. -/
def floorDiv? (a b : Int64) : Option Int64 := do
  let q ← div? a b
  let r ← rem? a b
  if r ≠ 0 ∧ decide (a.toInt < 0) ≠ decide (b.toInt < 0) then sub? q 1 else some q

/-- The remainder that goes with `floorDiv?`; it has the sign of the divisor (`floor_mod`). -/
def floorMod? (a b : Int64) : Option Int64 := do
  let q ← floorDiv? a b
  let p ← mul? b q
  sub? a p

theorem natAbs_toInt_mod_lt (a : Int64) {b : Int64} (hb : b ≠ 0) :
    (a % b).toInt.natAbs < b.toInt.natAbs := by
  rw [Int64.toInt_mod, Int.natAbs_tmod]
  exact Nat.mod_lt _ (Int.natAbs_pos.2 (toInt_ne_zero hb))

/-- Euclid's algorithm: the last number before zero in the chain `a`, `b`, `a % b` and so on, where
every number is the remainder of the two before it. The remainders get nearer to zero. -/
def euclid (a b : Int64) : Int64 :=
  if b = 0 then a else euclid b (a % b)
termination_by b.toInt.natAbs
decreasing_by exact natAbs_toInt_mod_lt a ‹_›

/-- The greatest common divisor of two integers (`gcd_pair`). -/
def gcdPair? (a b : Int64) : Option Int64 := do
  let a ← abs? a
  let b ← abs? b
  pure (euclid a b)

/-- The greatest common divisor of all values after those whose divisor is `acc`. -/
def gcdFrom? (acc : Int64) : List Int64 → Option Int64
  | [] => some acc
  | v :: rest => (gcdPair? acc v).bind fun g => gcdFrom? g rest

/-- The greatest common divisor; zero when all values are (`gcd`). -/
def gcd? (values : List Int64) : Option Int64 := gcdFrom? 0 values

/-- The least common multiple of all values, none of them zero, after those of multiple `acc`. -/
def lcmFrom? (acc : Int64) : List Int64 → Option Int64
  | [] => some acc
  | v :: rest => do
    let g ← gcdPair? acc v
    let q ← fit? (Int.tdiv acc.toInt g.toInt)
    let m ← abs? v
    let next ← mul? q m
    lcmFrom? next rest

/-- The least common multiple; zero when a value is (`lcm`). -/
def lcm? (values : List Int64) : Option Int64 :=
  if values.any fun v => v == 0 then some 0 else lcmFrom? 1 values

/-- The sum of all values after those of sum `acc`. -/
def sumFrom? (acc : Int64) : List Int64 → Option Int64
  | [] => some acc
  | v :: rest => (add? acc v).bind fun s => sumFrom? s rest

/-- The product of all values after those of product `acc`. -/
def productFrom? (acc : Int64) : List Int64 → Option Int64
  | [] => some acc
  | v :: rest => (mul? acc v).bind fun p => productFrom? p rest

end Assessment.Numeric
