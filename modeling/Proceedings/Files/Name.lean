import Proceedings.Text.Utf8

/-! # File names

The system knows files by bytes. A text becomes a file name in UTF-8, except that a byte that was no
UTF-8 when it was read, and came in as one of the surrogates from U+DC80 on, goes out as it was. Any
other surrogate has no bytes here either.
-/

namespace Proceedings

/-- The name of a file as the system knows it. -/
abbrev FileName := List UInt8

namespace FileName

/-- The byte from 0x80 on that a surrogate stands for. -/
def escapedByte? (unit : Fin 2048) : Option UInt8 :=
  if 0x480 ≤ unit.val ∧ unit.val < 0x500 then some (unit.val - 0x400).toUInt8 else none

/-- The bytes of a code point in a name, if it has any. -/
def bytes? : CodePoint → Option (List UInt8)
  | .scalar c => some (String.utf8EncodeChar c)
  | .surrogate unit => (escapedByte? unit).map ([·])

def hasBytes (p : CodePoint) : Bool := (bytes? p).isSome

/-- The bytes of the code points that have some. -/
def ofText (t : Text) : FileName :=
  t.flatMap fun p => (bytes? p).getD []

def ofString (s : String) : FileName := ofText (Text.ofString s)

/-- The name that leads back from a directory. -/
def dots : FileName := [0x2E, 0x2E]

/-- The first code point of a text that has no bytes in a name, with the surrogates behind it. -/
def fault? (t : Text) : Option Utf8.EncodeError :=
  let start := t.takeWhile hasBytes
  match t.drop start.length with
  | [] => none
  | p :: rest => some ⟨p, start.length, 1 + (rest.takeWhile CodePoint.isSurrogate).length⟩

end FileName

end Proceedings
