import Assessment.Numeric.Bounded

/-!
# Random sources

A source draws integers and floats in a range from a state of its own: the trait `RandomSource`.
Programs never hold one; it is handed to every evaluation, so two evaluations never share a state.

* `scripted` replays given draws, each moved into the range that is asked for. It is
  `ScriptedRandom`, draw for draw.
* `seeded` produces draws from a seed, and the same draws from the same seed. It has the ranges of
  `SeededRandom` and takes nothing from its state where the range is empty, but the numbers are not
  those of the program, whose generator (`StdRng`) is another: a test with a seed draws other
  numbers here. No result about programs depends on which numbers a source draws; where a range
  matters, the statement asks for it by name (`RandomSource.KeepsRange`).

Headlines:
* `scripted_integer_mem`: a scripted integer lies in its range.
* `seeded_integer_mem`: so does a seeded one.
-/

namespace Assessment

open Numeric

/-- Draws from a state of type `σ`: integers in a range with both ends, floats in a range without
its upper end. A range that holds nothing gives its lower end. -/
structure RandomSource (σ : Type) where
  integer : Int64 → Int64 → σ → Int64 × σ
  float : Float → Float → σ → Float × σ

namespace RandomSource

/-! ## Replayed draws -/

/-- Draws still to come. -/
structure Script where
  integers : List Int64
  floats : List Float

/-- An integer moved into a range that holds one. -/
def clamp (n low high : Int64) : Int64 :=
  if n.toInt < low.toInt then low else if high.toInt < n.toInt then high else n

/-- The source that replays a script, each draw moved into its range: an integer to the nearer end,
a float to the lower one. Past the script it draws the lower end. -/
def scripted : RandomSource Script where
  integer low high script :=
    match script.integers with
    | [] => (low, script)
    | n :: rest =>
      (clamp n low (if high.toInt < low.toInt then low else high), { script with integers := rest })
  float low high script :=
    match script.floats with
    | [] => (low, script)
    | x :: rest => (if x < low || high ≤ x then low else x, { script with floats := rest })

theorem scripted_integer_mem (low high : Int64) (script : Script) (h : low.toInt ≤ high.toInt) :
    low.toInt ≤ (scripted.integer low high script).1.toInt ∧
      (scripted.integer low high script).1.toInt ≤ high.toInt := by
  have hn : ¬ high.toInt < low.toInt := Int.not_lt.2 h
  simp only [scripted]
  split
  · exact ⟨Int.le_refl _, h⟩
  · simp only [if_neg hn, clamp]
    split
    · exact ⟨Int.le_refl _, h⟩
    · split
      · exact ⟨h, Int.le_refl _⟩
      · rename_i h1 h2
        exact ⟨Int.not_lt.1 h1, Int.not_lt.1 h2⟩

/-! ## Draws from a seed -/

/-- The next word of a sequence that walks through all words of 64 bits. -/
def stepSeed (s : UInt64) : UInt64 := s + 0x9E3779B97F4A7C15

/-- The bits of a word mixed, one word for each. -/
def mix (s : UInt64) : UInt64 :=
  let a := (s ^^^ (s >>> 30)) * 0xBF58476D1CE4E5B9
  let b := (a ^^^ (a >>> 27)) * 0x94D049BB133111EB
  b ^^^ (b >>> 31)

/-- The source that draws from a seed (`SeededRandom`). Its words are mixed from a counter, so that
its numbers differ from those that `StdRng` draws from the same seed. -/
def seeded : RandomSource UInt64 where
  integer low high s :=
    if high.toInt ≤ low.toInt then (low, s)
    else
      let s := stepSeed s
      let span : Int := high.toInt - low.toInt + 1
      (Int64.ofInt (low.toInt + (mix s).toNat % span), s)
  float low high s :=
    if high ≤ low then (low, s)
    else
      let s := stepSeed s
      let unit := ((mix s) >>> 11).toFloat / 9007199254740992.0
      let x := low + unit * (high - low)
      (if low ≤ x && x < high then x else low, s)

theorem seeded_integer_mem (low high : Int64) (s : UInt64) (h : low.toInt ≤ high.toInt) :
    low.toInt ≤ (seeded.integer low high s).1.toInt ∧
      (seeded.integer low high s).1.toInt ≤ high.toInt := by
  have b1 : -2 ^ 63 ≤ low.toInt := Int64.le_toInt low
  have b2 : high.toInt < 2 ^ 63 := Int64.toInt_lt high
  simp only [seeded]
  split
  · exact ⟨Int.le_refl _, h⟩
  · rename_i hlt
    have h0 := Int.emod_nonneg ((mix (stepSeed s)).toNat : Int)
      (b := high.toInt - low.toInt + 1) (by omega)
    have h1 := Int.emod_lt_of_pos ((mix (stepSeed s)).toNat : Int)
      (b := high.toInt - low.toInt + 1) (by omega)
    dsimp only
    rw [Int64.toInt_ofInt_of_le (by omega) (by omega)]
    omega

end RandomSource

end Assessment
