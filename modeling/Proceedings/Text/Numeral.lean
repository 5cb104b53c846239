import Proceedings.Text.Blank
import Proceedings.Text.Digit

/-! # Numerals

The numerals that settings and addresses may hold: blanks may stand around them, decimal digits of
any script count, and an underscore may stand between two digits.
-/

namespace Proceedings.Numeral

/-- A code point that is passed over at either end: ASCII white space, or a blank beyond ASCII. -/
def isPadding (p : CodePoint) : Bool :=
  let n := p.toNat
  if n < 0x7F then (0x09 ≤ n && n ≤ 0x0D) || n == 0x20 else p.isBlank

/-- A code point as an ASCII character, a digit of any script as the ASCII digit. -/
def plainChar? (p : CodePoint) : Option Char :=
  let n := p.toNat
  if n < 0x7F then some (Char.ofNat n)
  else p.decimalValue?.map fun value => Char.ofNat (0x30 + value)

/-- The characters without their underscores, if each stands between two digits; `afterDigit` tells
whether a digit stands before. -/
def dropUnderscores? : (afterDigit : Bool) → List Char → Option (List Char)
  | _, [] => some []
  | afterDigit, '_' :: rest =>
    if afterDigit && rest.head?.any Char.isDigit then dropUnderscores? false rest else none
  | _, c :: rest => (c :: ·) <$> dropUnderscores? c.isDigit rest

/-- The characters of a numeral in ASCII, without what may stand around and between them. -/
def plain? (t : Text) : Option (List Char) := do
  let inner := ((t.dropWhile isPadding).reverse.dropWhile isPadding).reverse
  dropUnderscores? false (← inner.mapM plainChar?)

/-- The number that digits spell. -/
def natOfChars (digits : List Char) : Nat :=
  digits.foldl (fun n c => n * 10 + (c.toNat - 0x30)) 0

def takeSign : List Char → Bool × List Char
  | '-' :: rest => (true, rest)
  | '+' :: rest => (false, rest)
  | cs => (false, cs)

/-- The most digits that a whole number may have. -/
def maxDigits : Nat := 4300

def int? (t : Text) : Option Int := do
  let (negative, digits) := takeSign (← plain? t)
  if digits.isEmpty || !digits.all Char.isDigit || maxDigits < digits.length then none
  else
    let size : Int := natOfChars digits
    return if negative then -size else size

end Proceedings.Numeral
