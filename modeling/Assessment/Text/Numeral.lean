import Assessment.Numeric.Bounded

/-!
# Numerals: decimal numbers in text

An integer numeral is an optional sign and at least one ASCII digit. A decimal numeral also takes a
point with digits on either side of it (one side may be missing), an exponent, and the words `inf`,
`infinity` and `nan` in any case. Nothing else may stand around a numeral, blanks included.

These are the texts that `Scalar::parse`, `Coords::parse` and the readers of attributes take for
numbers. A decimal numeral gives the double nearest to it, ties to the even one; `readFinite?`
leaves out what is not finite, as `parse_finite` does.

Headlines:
* `readNatural?_digits`: the digits written for a natural number read back as that number.
* `readInteger?_integerChars`: so do the digits and the sign written for an integer.
-/

namespace Assessment.Text

open Numeric

/-! ## Digits -/

/-- Whether a character is one of the ten ASCII digits. -/
def isDigit (c : Char) : Bool := 0x30 ≤ c.toNat && c.toNat ≤ 0x39

/-- The positional value of digits, after those whose value is `acc`. -/
def digitsValue (acc : Nat) : List Char → Nat
  | [] => acc
  | c :: rest => digitsValue (10 * acc + (c.toNat - 0x30)) rest

/-- The digit character of a number below ten. -/
def digitChar (n : Nat) : Char := Char.ofNat (0x30 + n)

/-- The decimal digits of a natural number, without leading zeros. -/
def digits (n : Nat) : List Char :=
  if n < 10 then [digitChar n] else digits (n / 10) ++ [digitChar (n % 10)]

/-- The decimal digits of an integer after its sign, which a number that is not negative lacks. -/
def integerChars (n : Int) : List Char :=
  if n < 0 then '-' :: digits n.natAbs else digits n.natAbs

/-- The decimal text of an integer. -/
def integerText (n : Int) : String := String.ofList (integerChars n)

/-! ## Integers -/

/-- The number that one or more digits write. -/
def readNatural? (s : List Char) : Option Nat :=
  if s.isEmpty then none else if s.all isDigit then some (digitsValue 0 s) else none

/-- The number that an integer numeral writes. -/
def readInteger? : List Char → Option Int
  | '-' :: rest => (readNatural? rest).map Int.negOfNat
  | '+' :: rest => (readNatural? rest).map Int.ofNat
  | s => (readNatural? s).map Int.ofNat

/-- The 64-bit integer that a text writes. -/
def readInt64? (s : String) : Option Int64 :=
  (readInteger? s.toList).bind fit?

/-! ## Decimal numbers -/

/-- A decimal numeral as read: `coefficient * 10 ^ exponent` with a sign, or one of the words. -/
inductive Numeral where
  | finite (negative : Bool) (coefficient : Nat) (exponent : Int)
  | infinite (negative : Bool)
  | nan
deriving Repr, DecidableEq

/-- The double nearest to `coefficient * 10 ^ exponent`, infinite past the largest one. -/
def scaledFloat (coefficient : Nat) (exponent : Int) : Float :=
  let magnitude : Int := (digits coefficient).length + exponent
  if coefficient = 0 then 0.0
  else if magnitude > 310 then 1.0 / 0.0
  else if magnitude < -330 then 0.0
  else if exponent < 0 then Float.ofScientific coefficient true exponent.natAbs
  else Float.ofScientific coefficient false exponent.natAbs

/-- The double nearest to a numeral. -/
def Numeral.toFloat : Numeral → Float
  | .finite negative c e => if negative then -(scaledFloat c e) else scaledFloat c e
  | .infinite negative => if negative then -1.0 / 0.0 else 1.0 / 0.0
  | .nan => 0.0 / 0.0

/-- The value of an exponent: nothing, or a letter `e`, an optional sign and digits. -/
def readExponent? : List Char → Option Int
  | [] => some 0
  | c :: rest => if c == 'e' || c == 'E' then readInteger? rest else none

/-- A numeral without its sign: digits, an optional point with digits, an optional exponent. -/
def readUnsigned? (negative : Bool) (s : List Char) : Option Numeral :=
  let whole := s.takeWhile isDigit
  let rest := s.dropWhile isDigit
  let (fraction, tail) := match rest with
    | '.' :: r => (r.takeWhile isDigit, r.dropWhile isDigit)
    | r => ([], r)
  if whole.isEmpty && fraction.isEmpty then none
  else (readExponent? tail).map fun e =>
    .finite negative (digitsValue 0 (whole ++ fraction)) (e - fraction.length)

/-- The character with an ASCII capital made small. -/
def smallAscii (c : Char) : Char :=
  if 0x41 ≤ c.toNat && c.toNat ≤ 0x5A then Char.ofNat (c.toNat + 0x20) else c

/-- The words that stand for values no digits write. -/
def readWord? (negative : Bool) (s : List Char) : Option Numeral :=
  let word := String.ofList (s.map smallAscii)
  if word == "inf" || word == "infinity" then some (.infinite negative)
  else if word == "nan" then some .nan
  else none

/-- A decimal numeral, read whole. -/
def readNumeral? (s : List Char) : Option Numeral :=
  match s with
  | '-' :: rest => readUnsigned? true rest <|> readWord? true rest
  | '+' :: rest => readUnsigned? false rest <|> readWord? false rest
  | _ => readUnsigned? false s <|> readWord? false s

/-- The double that a text writes, infinities and NaN included. -/
def readFloat? (s : String) : Option Float :=
  (readNumeral? s.toList).map Numeral.toFloat

/-- The finite double that a text writes. -/
def readFinite? (s : String) : Option Float :=
  (readFloat? s).filter Float.isFinite

/-! ## Writing and reading back -/

theorem digitsValue_append (acc : Nat) (s : List Char) (c : Char) :
    digitsValue acc (s ++ [c]) = 10 * digitsValue acc s + (c.toNat - 0x30) := by
  induction s generalizing acc with
  | nil => rfl
  | cons d rest ih => exact ih _

theorem toNat_digitChar {n : Nat} (h : n < 10) : (digitChar n).toNat = 0x30 + n := by
  have : ∀ m : Fin 10, (digitChar m.1).toNat = 0x30 + m.1 := by decide
  exact this ⟨n, h⟩

theorem isDigit_digitChar {n : Nat} (h : n < 10) : isDigit (digitChar n) = true := by
  unfold isDigit
  rw [toNat_digitChar h]
  simp
  omega

theorem digits_ne_nil (n : Nat) : digits n ≠ [] := by
  unfold digits
  split <;> simp

theorem all_isDigit_digits (n : Nat) : (digits n).all isDigit = true := by
  induction n using digits.induct with
  | case1 n h => unfold digits; simp [h, isDigit_digitChar h]
  | case2 n h ih =>
    unfold digits
    rw [if_neg h, List.all_append, ih]
    simp [isDigit_digitChar (Nat.mod_lt n (by decide : 10 > 0))]

theorem digitsValue_digits (n : Nat) : digitsValue 0 (digits n) = n := by
  induction n using digits.induct with
  | case1 n h =>
    unfold digits
    rw [if_pos h]
    show 10 * 0 + ((digitChar n).toNat - 0x30) = n
    rw [toNat_digitChar h]
    omega
  | case2 n h ih =>
    unfold digits
    rw [if_neg h, digitsValue_append, ih, toNat_digitChar (Nat.mod_lt n (by decide))]
    omega

theorem readNatural?_digits (n : Nat) : readNatural? (digits n) = some n := by
  unfold readNatural?
  simp [digits_ne_nil, all_isDigit_digits, digitsValue_digits]

/-- An integer's text reads back as the integer. -/
theorem readInteger?_integerChars (n : Int) : readInteger? (integerChars n) = some n := by
  unfold integerChars
  split
  · rename_i h
    simp only [readInteger?, readNatural?_digits, Option.map_some, Int.negOfNat_eq]
    congr 1
    have : Int.ofNat n.natAbs = (n.natAbs : Int) := rfl
    omega
  · rename_i h
    have hd := all_isDigit_digits n.natAbs
    have hr := readNatural?_digits n.natAbs
    have hn : ((n.natAbs : Nat) : Int) = n := by omega
    unfold readInteger?
    split
    · rename_i rest e
      rw [e] at hd
      simp [isDigit] at hd
    · rename_i rest e
      rw [e] at hd
      simp [isDigit] at hd
    · rw [hr, Option.map_some]
      exact congrArg some hn

end Assessment.Text
