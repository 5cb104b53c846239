import Proceedings.Text.Basic

/-! # Blanks and lines

Blanks are the white space of all scripts together with the four information separators. Lines
end at a line feed, a carriage return or both, and also at the other vertical separators.
-/

namespace Proceedings

namespace CodePoint

/-- White space in any script. -/
def isBlank (p : CodePoint) : Bool :=
  let n := p.toNat
  (0x09 ≤ n && n ≤ 0x0D) || (0x1C ≤ n && n ≤ 0x20) || n == 0x85 || n == 0xA0 || n == 0x1680 ||
    (0x2000 ≤ n && n ≤ 0x200A) || n == 0x2028 || n == 0x2029 || n == 0x202F || n == 0x205F ||
    n == 0x3000

/-- A code point that ends a line. -/
def isLineEnd (p : CodePoint) : Bool :=
  let n := p.toNat
  (0x0A ≤ n && n ≤ 0x0D) || (0x1C ≤ n && n ≤ 0x1E) || n == 0x85 || n == 0x2028 || n == 0x2029

end CodePoint

namespace Text

def trimStart (t : Text) : Text :=
  t.dropWhile CodePoint.isBlank

def trim (t : Text) : Text :=
  (trimStart (trimStart t).reverse).reverse

/-- Nothing but blanks. -/
def isBlank (t : Text) : Bool :=
  t.all CodePoint.isBlank

/-- The lines of a text without their ends; a line end at the very end starts no further line. -/
def lines : Text → List Text
  | [] => []
  | .scalar '\r' :: .scalar '\n' :: rest => [] :: lines rest
  | p :: rest =>
    if p.isLineEnd then [] :: lines rest
    else match lines rest with
      | [] => [[p]]
      | line :: others => (p :: line) :: others

/-- The text with each carriage return, alone or before a line feed, read as a line feed. -/
def unifyNewlines : Text → Text
  | [] => []
  | .scalar '\r' :: .scalar '\n' :: rest => .scalar '\n' :: unifyNewlines rest
  | p :: rest => (if p = .scalar '\r' then .scalar '\n' else p) :: unifyNewlines rest

end Text

end Proceedings
