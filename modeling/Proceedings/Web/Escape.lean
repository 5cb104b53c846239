import Proceedings.Text.Digit
import Proceedings.Text.Quoted

/-! # Percent escapes

A character that a part of an address cannot hold is escaped: each byte of its UTF-8 form is written
as a percent sign and two hexadecimal digits. What is escaped already stays as it is.
-/

namespace Proceedings.Escape

/-- A byte as a percent sign and two hexadecimal digits in capitals. -/
def byteChars (b : UInt8) : List Char :=
  '%' :: (hexDigits 2 b.toNat).map Char.toUpper

def charChars (c : Char) : List Char :=
  (String.utf8EncodeChar c).flatMap byteChars

def isUnreserved (c : Char) : Bool :=
  c.isAlphanum || "-._~".toList.contains c

/-- A visible character of ASCII. -/
def isVisible (c : Char) : Bool :=
  0x20 < c.toNat && c.toNat < 0x7F

/-- A character that a host name can hold. -/
def isHostChar (c : Char) : Bool :=
  isUnreserved c || "!$&'()*+,;=\"`{}%|\\".toList.contains c

/-- A character that the name of a user and a password can hold. -/
def isUserChar (c : Char) : Bool :=
  isVisible c && !"\"#<>?`{}/;=@[\\]^|".toList.contains c

/-- A character that a path can hold. -/
def isPathChar (c : Char) : Bool :=
  isVisible c && !"\"#<>?`{}".toList.contains c

/-- A character that a query can hold. -/
def isQueryChar (c : Char) : Bool :=
  isVisible c && !"\"#<>".toList.contains c

/-- A character that a fragment can hold. -/
def isFragmentChar (c : Char) : Bool :=
  isVisible c && !"\"<>`".toList.contains c

def isHexDigit (c : Char) : Bool :=
  (CodePoint.hexValue? (.scalar c)).isSome

/-- Escapes the characters that a part of an address cannot hold. -/
def escape (fits : Char → Bool) : List Char → List Char
  | [] => []
  | '%' :: a :: b :: rest =>
    if isHexDigit a && isHexDigit b then '%' :: a :: b :: escape fits rest
    else (if fits '%' then ['%'] else charChars '%') ++ escape fits (a :: b :: rest)
  | c :: rest => (if fits c then [c] else charChars c) ++ escape fits rest

end Proceedings.Escape
