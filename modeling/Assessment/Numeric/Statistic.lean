import Assessment.Numeric.Rounding

/-!
# Statistics

The helper `statistic` behind the operator statsOperator: the mean of a sample, and its variance and
standard deviation. Those of the whole population divide by the size of the sample, those that
estimate it by one less and need two values. All is done in doubles, in the order of the sample, and
a result that is not finite is no result.
-/

namespace Assessment.Numeric

/-- A statistic of a sample. -/
inductive Statistic where
  | mean
  | sampleVariance
  | sampleSD
  | popVariance
  | popSD
deriving DecidableEq, Repr

/-- All statistics. -/
def Statistic.all : List Statistic :=
  [.mean, .sampleVariance, .sampleSD, .popVariance, .popSD]

/-- The name of a statistic. -/
def Statistic.name : Statistic → String
  | .mean => "mean"
  | .sampleVariance => "sampleVariance"
  | .sampleSD => "sampleSD"
  | .popVariance => "popVariance"
  | .popSD => "popSD"

/-- The statistic of a name. -/
def Statistic.ofName? (s : String) : Option Statistic :=
  Statistic.all.find? fun m => m.name == s

/-- The sum of doubles from the first to the last. -/
def sum (xs : List Float) : Float := xs.foldl (· + ·) (-0.0)

/-- The product of doubles from the first to the last. -/
def product (xs : List Float) : Float := xs.foldl (· * ·) 1.0

/-- The mean of a sample. -/
def meanOf (xs : List Float) : Float := sum xs / Float.ofNat xs.length

/-- The sum of the squared distances from the mean. -/
def squaresOf (xs : List Float) : Float :=
  let m := meanOf xs
  sum (xs.map fun x => (x - m) * (x - m))

/-- A statistic of a sample; `none` when the sample is too small or the result is not finite
(`statistic`). -/
def Statistic.of? (statistic : Statistic) (xs : List Float) : Option Float :=
  let n := xs.length
  if n = 0 then none
  else
    match statistic with
    | .mean => finite? (meanOf xs)
    | .popVariance => finite? (squaresOf xs / Float.ofNat n)
    | .popSD => finite? (squaresOf xs / Float.ofNat n).sqrt
    | .sampleVariance => if n < 2 then none else finite? (squaresOf xs / Float.ofNat (n - 1))
    | .sampleSD => if n < 2 then none else finite? (squaresOf xs / Float.ofNat (n - 1)).sqrt

end Assessment.Numeric
