/-! # Texts

A text is a sequence of code points. Besides the characters a code point may be one half of a
surrogate pair that stands alone: a JSON escape can name it, but no UTF-8 file can hold it.
-/

namespace Proceedings

/-- A character, or half of a surrogate pair that stands alone. -/
inductive CodePoint where
  | scalar (c : Char)
  | surrogate (unit : Fin 2048)
  deriving DecidableEq

/-- A text is the sequence of its code points. -/
abbrev Text := List CodePoint

namespace CodePoint

def toNat : CodePoint → Nat
  | .scalar c => c.toNat
  | .surrogate u => 0xD800 + u.val

/-- The code point with a given number; beyond the last one there is only U+FFFD. -/
def ofNat (n : Nat) : CodePoint :=
  if h : 0xD800 ≤ n ∧ n < 0xE000 then .surrogate ⟨n - 0xD800, by omega⟩
  else if n < 0x110000 then .scalar (Char.ofNat n)
  else .scalar '\uFFFD'

def toChar? : CodePoint → Option Char
  | .scalar c => some c
  | .surrogate _ => none

/-- Half of a surrogate pair. -/
def isSurrogate (p : CodePoint) : Bool :=
  p.toChar?.isNone

/-- One of the ten digits of ASCII. -/
def isAsciiDigit (p : CodePoint) : Bool :=
  0x30 ≤ p.toNat && p.toNat ≤ 0x39

def digitValue (p : CodePoint) : Nat :=
  p.toNat - 0x30

end CodePoint

namespace Text

def ofString (s : String) : Text :=
  s.toList.map CodePoint.scalar

/-- The text for display: a surrogate shows as the replacement character. -/
def display (t : Text) : String :=
  String.ofList <| t.map fun p => p.toChar?.getD '\uFFFD'

/-- The order of texts by the numbers of their code points. -/
def less : Text → Text → Bool
  | [], [] => false
  | [], _ :: _ => true
  | _ :: _, [] => false
  | p :: s, q :: t => p.toNat < q.toNat || (p.toNat == q.toNat && less s t)

def ofNat (n : Nat) : Text :=
  (Nat.toDigits 10 n).map CodePoint.scalar

/-- A whole number in decimal, with a minus sign if it is negative. -/
def ofInt : Int → Text
  | .ofNat n => ofNat n
  | .negSucc n => .scalar '-' :: ofNat (n + 1)

end Text

end Proceedings
