import Proceedings.Binary64.Basic
import Proceedings.Text.Numeral

/-! # Reading numbers from settings

A number in a setting is a decimal with or without sign, fraction and exponent, or the word for an
infinity or for what is not a number, in any case.
-/

namespace Proceedings.Binary64

open Numeral

/-- Reads an exponent, which is all that is left. -/
def exponent? : List Char → Option Int
  | [] => some 0
  | c :: rest =>
    if c = 'e' || c = 'E' then
      let (negative, digits) := takeSign rest
      if digits.isEmpty || !digits.all Char.isDigit then none
      else
        let size : Int := natOfChars digits
        some (if negative then -size else size)
    else none

/-- Reads a decimal without its sign. -/
def decimal? (negative : Bool) (cs : List Char) : Option Binary64 := do
  let whole := cs.takeWhile Char.isDigit
  let rest := cs.dropWhile Char.isDigit
  let afterPoint := if rest.head? = some '.' then rest.tail else []
  let places := afterPoint.takeWhile Char.isDigit
  let rest := if rest.head? = some '.' then afterPoint.dropWhile Char.isDigit else rest
  if whole.isEmpty && places.isEmpty then none
  else
    let exponent ← exponent? rest
    return ofDecimal negative (natOfChars (whole ++ places)) (exponent - places.length)

/-- The number that a text spells. -/
def ofText? (t : Text) : Option Binary64 := do
  let (negative, rest) := takeSign (← plain? t)
  let word := String.ofList (rest.map Char.toLower)
  if word = "inf" || word = "infinity" then return .infinite negative
  else if word = "nan" then return .nan
  else decimal? negative rest

end Proceedings.Binary64
