/-! # Binary floating point

Numbers in the 64-bit binary format. A finite number is a sign and a rank: the magnitudes are
numbered in ascending order from zero on, which is also the order of their bit patterns. Rounding
finds the rank nearest to a fraction, and of two equally near ones the even one.
-/

namespace Proceedings

/-- A number in the 64-bit binary format. There are 2047 times 2 to the 52nd finite magnitudes. -/
inductive Binary64 where
  | nan
  | infinite (negative : Bool)
  | finite (negative : Bool) (rank : Fin 9218868437227405312)
  deriving DecidableEq

namespace Binary64

/-- The number of magnitudes with one exponent: 2 to the 52nd. -/
def significands : Nat := 4503599627370496

/-- The magnitude of a rank, in units of the smallest positive one, which is 2 to the -1074. -/
def units (rank : Nat) : Nat :=
  if rank < significands then rank
  else (significands + rank % significands) <<< (rank / significands - 1)

/-- The rank nearest to `num / den`, the even one of two; ranks run on beyond the finite ones. -/
def nearestRank (num den : Nat) : Nat :=
  let scaled := num <<< 1074
  let shift := (scaled / den).log2 - 52
  let step := den <<< shift
  let rank := shift * significands + scaled / step
  let rest := scaled % step
  if step < 2 * rest || (2 * rest == step && rank % 2 == 1) then rank + 1 else rank

/-- The number of a sign and a rank, infinite beyond the finite ranks. -/
def ofRank (negative : Bool) (rank : Nat) : Binary64 :=
  if h : rank < 9218868437227405312 then .finite negative ⟨rank, h⟩ else .infinite negative

/-- The number nearest to a fraction. -/
def ofRatio (negative : Bool) (num den : Nat) : Binary64 :=
  ofRank negative (nearestRank num den)

def zero : Binary64 := ofRank false 0

def digitCount (n : Nat) : Nat :=
  (Nat.toDigits 10 n).length

/-- The number nearest to `digits` times 10 to the `exponent`. Far outside the range of the finite
numbers the power is not formed. -/
def ofDecimal (negative : Bool) (digits : Nat) (exponent : Int) : Binary64 :=
  if digits = 0 then ofRank negative 0
  else if 310 < exponent + digitCount digits then .infinite negative
  else if exponent + digitCount digits < -330 then ofRank negative 0
  else if 0 ≤ exponent then ofRatio negative (digits * Nat.pow 10 exponent.toNat) 1
  else ofRatio negative digits (Nat.pow 10 (-exponent).toNat)

/-- The number nearest to an integer, unless that lies beyond the finite ones. -/
def ofInt? (n : Int) : Option Binary64 :=
  match ofRatio (n < 0) n.natAbs 1 with
  | .infinite _ => none
  | x => some x

/-- Neither infinite nor undefined. -/
def isFinite : Binary64 → Bool
  | .finite _ _ => true
  | _ => false

/-- Zero of either sign. -/
def isZero : Binary64 → Bool
  | .finite _ rank => rank.val == 0
  | _ => false

/-- Equality of numbers: the two zeros are equal, and what is not a number equals nothing. -/
def equals : Binary64 → Binary64 → Bool
  | .nan, _ => false
  | _, .nan => false
  | x, y => x == y || (x.isZero && y.isZero)

/-- Whether the number is exactly the given integer. -/
def equalsInt (x : Binary64) (n : Int) : Bool :=
  match x with
  | .finite negative rank =>
    let magnitude : Int := units rank
    (if negative then -magnitude else magnitude) == n * Int.ofNat (1 <<< 1074)
  | _ => false

end Binary64

end Proceedings
