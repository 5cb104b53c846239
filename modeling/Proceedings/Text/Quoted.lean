import Proceedings.Text.Printable

/-! # Quoted text

The form in which messages show a text: between single quotes, or between double quotes if it
holds single ones and no double ones. Backslashes, the quote itself and what is not printable are
escaped, so the form is always a plain string.
-/

namespace Proceedings

/-- The digit, from 0 to f, of a number below 16. -/
def hexDigit (n : Nat) : Char :=
  if n < 10 then Char.ofNat (0x30 + n) else Char.ofNat (0x57 + n)

/-- The last `width` hexadecimal digits of a number. -/
def hexDigits : Nat → Nat → List Char
  | 0, _ => []
  | width + 1, n => hexDigits width (n / 16) ++ [hexDigit (n % 16)]

namespace CodePoint

/-- The escape of a code point by its number: two, four or eight hexadecimal digits. -/
def numericEscape (p : CodePoint) : List Char :=
  let n := p.toNat
  if n < 0x100 then '\\' :: 'x' :: hexDigits 2 n
  else if n < 0x10000 then '\\' :: 'u' :: hexDigits 4 n
  else '\\' :: 'U' :: hexDigits 8 n

/-- A code point as it stands between the given quotes. -/
def quoted (quote : Char) (p : CodePoint) : List Char :=
  match p with
  | .surrogate _ => p.numericEscape
  | .scalar c =>
    if c = quote || c = '\\' then ['\\', c]
    else if c = '\n' then ['\\', 'n']
    else if c = '\r' then ['\\', 'r']
    else if c = '\t' then ['\\', 't']
    else if p.isPrintable then [c]
    else p.numericEscape

end CodePoint

namespace Text

def quote (t : Text) : Char :=
  if t.contains (.scalar '\'') && !t.contains (.scalar '"') then '"' else '\''

def quoted (t : Text) : String :=
  String.ofList (t.quote :: t.flatMap (CodePoint.quoted t.quote) ++ [t.quote])

end Text

def quoted (s : String) : String :=
  (Text.ofString s).quoted

end Proceedings
