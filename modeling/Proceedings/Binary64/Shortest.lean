import Proceedings.Binary64.Basic

/-! # The shortest decimal

A finite number is written with the fewest decimal digits that read back as the same number; of the
candidates with that many digits the nearest is taken, and of two equally near ones the even one.
-/

namespace Proceedings.Binary64

structure Decimal where
  digits : Nat
  exponent : Int

/-- The rank that a decimal reads as. -/
def Decimal.rank (d : Decimal) : Nat :=
  if 0 ≤ d.exponent then nearestRank (d.digits * Nat.pow 10 d.exponent.toNat) 1
  else nearestRank d.digits (Nat.pow 10 (-d.exponent).toNat)

/-- The exponent of the leading decimal digit of a positive fraction. -/
def leadingExponent (num den : Nat) : Int :=
  if den ≤ num then digitCount (num / den) - 1
  else -digitCount ((den - 1) / num)

/-- The decimals on either side of the magnitude of a rank, on the grid whose points have `count`
digits: the nearer one first. -/
def neighbours (rank count : Nat) : List Decimal :=
  let num := units rank
  let den := 1 <<< 1074
  let exponent := leadingExponent num den - (count - 1)
  let dividend := if 0 ≤ exponent then num else num * Nat.pow 10 (-exponent).toNat
  let divisor := if 0 ≤ exponent then den * Nat.pow 10 exponent.toNat else den
  let below := dividend / divisor
  let rest := dividend % divisor
  if 2 * rest < divisor || (2 * rest == divisor && below % 2 == 0) then
    [⟨below, exponent⟩, ⟨below + 1, exponent⟩]
  else [⟨below + 1, exponent⟩, ⟨below, exponent⟩]

/-- The shortest decimal that reads back as a rank. Seventeen digits always suffice; the exact
decimal stands last. -/
def shortest (rank : Nat) : Decimal :=
  ((List.range 17).findSome? fun i =>
    (neighbours rank (i + 1)).find? fun d => d.rank == rank).getD
    ⟨units rank * Nat.pow 5 1074, -1074⟩

/-- The decimal without zeros at its end. -/
def Decimal.digitsOf (d : Decimal) : List Char :=
  ((Nat.toDigits 10 d.digits).reverse.dropWhile (· == '0')).reverse

/-- An exponent with its sign and at least two digits. -/
def exponentChars (e : Int) : List Char :=
  let digits := Nat.toDigits 10 e.natAbs
  (if e < 0 then '-' else '+') :: (if digits.length < 2 then '0' :: digits else digits)

/-- A positive decimal in positional form if its leading digit stands for 10 to the -4 up to 10 to
the 15, and else with an exponent. The positional form always has a fraction. -/
def Decimal.chars (d : Decimal) : List Char :=
  let digits := d.digitsOf
  let point := digitCount d.digits + d.exponent
  if -4 < point && point ≤ 16 then
    if point ≤ 0 then '0' :: '.' :: (List.replicate (-point).toNat '0' ++ digits)
    else
      let whole := point.toNat
      let fraction := digits.drop whole
      digits.take whole ++ List.replicate (whole - digits.length) '0' ++
        '.' :: (if fraction.isEmpty then ['0'] else fraction)
  else
    let fraction := digits.drop 1
    digits.take 1 ++ (if fraction.isEmpty then [] else '.' :: fraction) ++
      'e' :: exponentChars (point - 1)

/-- The names of the numbers that have no digits. -/
structure SpecialNames where
  nan : String
  infinity : String

/-- The text of a number. -/
def chars (names : SpecialNames) : Binary64 → List Char
  | .nan => names.nan.toList
  | .infinite negative => (if negative then ['-'] else []) ++ names.infinity.toList
  | .finite negative rank =>
    (if negative then ['-'] else []) ++
      if rank.val = 0 then ['0', '.', '0'] else (shortest rank).chars

end Proceedings.Binary64
