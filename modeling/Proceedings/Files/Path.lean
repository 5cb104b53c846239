import Proceedings.Text.Basic
import Proceedings.Text.Part

/-! # Paths

A path is read from its text by its parts between slashes. Empty parts and single dots are dropped;
double dots stay, since what they lead to depends on the files.
-/

namespace Proceedings

/-- A path: the slashes it starts from, and its parts. -/
structure Path where
  root : Text
  parts : List Text
  deriving DecidableEq

namespace Path

def slash : CodePoint := .scalar '/'

/-- The slashes that a path starts from: exactly two count as two, any other number as one. -/
def rootOf : Text → Text
  | .scalar '/' :: .scalar '/' :: .scalar '/' :: _ => [slash]
  | .scalar '/' :: .scalar '/' :: _ => [slash, slash]
  | .scalar '/' :: _ => [slash]
  | _ => []

def isNamed (part : Text) : Bool :=
  !part.isEmpty && part != [.scalar '.']

/-- The path that a text spells. -/
def ofText (t : Text) : Path :=
  ⟨rootOf t, (partsBetween (· == slash) t).filter isNamed⟩

def ofString (s : String) : Path := ofText (Text.ofString s)

/-- The text of a path; a path that leads nowhere is a dot. -/
def text (p : Path) : Text :=
  if p.root.isEmpty && p.parts.isEmpty then [.scalar '.']
  else p.root ++ List.intercalate [slash] p.parts

def name (p : Path) : Text :=
  p.parts.getLast?.getD []

def parent (p : Path) : Path :=
  ⟨p.root, p.parts.dropLast⟩

def child (p : Path) (name : Text) : Path :=
  ⟨p.root, p.parts ++ [name]⟩

end Path

end Proceedings
