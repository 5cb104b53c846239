import Proceedings.Text.Basic
import Proceedings.Text.Part

/-! # Punycode

The form in which a label of a host name is written in ASCII: first the characters that are ASCII,
then, in the order of their numbers, where the others come in. Each step is a number with digits of
base 36 whose last digit is told by a threshold, and the thresholds adapt to the steps.
-/

namespace Proceedings.Punycode

/-- The digit of a value below 36. -/
def digitChar (value : Nat) : Char :=
  Char.ofNat (if value < 26 then 0x61 + value else 0x30 + value - 26)

def digitValue? (c : Char) : Option Nat :=
  if c.isLower then some (c.toNat - 0x61)
  else if c.isUpper then some (c.toNat - 0x41)
  else if c.isDigit then some (c.toNat - 0x30 + 26)
  else none

/-- What a digit must stay below to be the last of its number. -/
def threshold (bias index : Nat) : Nat :=
  max 1 (min 26 (36 * (index + 1) - bias))

/-- A step made small enough to tell how many digits it took, and that number in units of 36. -/
def scale (step divisions : Nat) : Nat × Nat :=
  if 455 < step then scale (step / 35) (divisions + 36) else (step, divisions)
termination_by step
decreasing_by exact Nat.div_lt_self (by omega) (by omega)

/-- The bias behind a step, when there are `count` characters. -/
def adapt (step count : Nat) (first : Bool) : Nat :=
  let damped := if first then step / 700 else step / 2
  let (step, divisions) := scale (damped + damped / count) 0
  divisions + 36 * step / (step + 38)

/-- The digits of a number from one of its digits on. -/
def digitsFrom (bias index n : Nat) : List Char :=
  let t := threshold bias index
  if n < t then [digitChar n]
  else digitChar (t + (n - t) % (36 - t)) :: digitsFrom bias (index + 1) ((n - t) / (36 - t))
termination_by n
decreasing_by
  have : 1 ≤ threshold bias index := Nat.le_max_left ..
  exact Nat.lt_of_le_of_lt (Nat.div_le_self ..) (by omega)

/-- How far a label is written: the digits so far, the step that has grown since the last one, the
bias, and how many characters are written. -/
structure Writer where
  digits : List Char
  step : Nat
  bias : Nat
  count : Nat

/-- Passes a character of the label while the characters of number `n` are written. -/
def Writer.pass (basics n : Nat) (w : Writer) (p : CodePoint) : Writer :=
  if p.toNat < n then { w with step := w.step + 1 }
  else if p.toNat = n then
    ⟨w.digits ++ digitsFrom w.bias 0 w.step, 0, adapt w.step (w.count + 1) (w.count == basics),
      w.count + 1⟩
  else w

/-- Writes the characters with the given numbers, in ascending order, from a number on. -/
def Writer.write (label : Text) (basics : Nat) : List Nat → Nat → Writer → Writer
  | [], _, w => w
  | n :: rest, start, w =>
    let w := label.foldl (Writer.pass basics n)
      { w with step := w.step + (n - start) * (w.count + 1) }
    write label basics rest (n + 1) { w with step := w.step + 1 }

def encode (label : Text) : List Char :=
  let basics := label.filterMap fun p => if p.toNat < 0x80 then p.toChar? else none
  let others := (label.map CodePoint.toNat).filter (0x80 ≤ ·)
  let numbers := (others.mergeSort (· ≤ ·)).eraseDups
  let w := Writer.write label basics.length numbers 0x80 ⟨[], 0, 72, basics.length⟩
  (if basics.isEmpty then [] else basics ++ ['-']) ++ w.digits

/-- How far a form in ASCII is read: the label so far, the number and the place of the next
character, the bias, and the value, the weight and the index of the next digit of a step. -/
structure Reader where
  label : Text
  point : Nat
  place : Nat
  bias : Nat
  first : Bool
  value : Nat
  weight : Nat
  index : Nat

/-- Carries out a step that has been read. -/
def Reader.insert (r : Reader) (step : Nat) : Option Reader :=
  let places := r.label.length + 1
  let point := r.point + (r.place + step) / places
  let place := (r.place + step) % places
  if 0x10FFFF < point then none
  else some ⟨r.label.take place ++ CodePoint.ofNat point :: r.label.drop place, point, place + 1,
    adapt step places r.first, false, 0, 1, 0⟩

def Reader.read (r : Reader) (c : Char) : Option Reader := do
  let digit ← digitValue? c
  let t := threshold r.bias r.index
  let value := r.value + digit * r.weight
  if digit < t then r.insert value
  else some { r with value := value, weight := r.weight * (36 - t), index := r.index + 1 }

def decode? (form : List Char) : Option Text := do
  let digits := afterLast '-' form
  let basics := form.take (form.length - digits.length - 1)
  let start : Reader := ⟨basics.map .scalar, 0x80, 0, 72, true, 0, 1, 0⟩
  let r ← digits.foldlM Reader.read start
  if r.index = 0 then some r.label else none

end Proceedings.Punycode
