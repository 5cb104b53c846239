/-! # Parts between marks

A text is divided by marks into the parts between them, the empty ones too, or only by the first or
the last mark.
-/

namespace Proceedings

/-- The parts of a text between the characters that divide it. -/
def partsBetween {α : Type} (isMark : α → Bool) : List α → List (List α)
  | [] => [[]]
  | c :: rest =>
    if isMark c then [] :: partsBetween isMark rest
    else match partsBetween isMark rest with
      | [] => [[c]]
      | part :: parts => (c :: part) :: parts

/-- The characters before the first mark, and those behind it if there is one. -/
def splitAtMark {α : Type} [BEq α] (mark : α) (chars : List α) : List α × Option (List α) :=
  let start := chars.takeWhile (· != mark)
  match chars.drop start.length with
  | _ :: rest => (start, some rest)
  | [] => (start, none)

/-- The characters behind the last mark; all of them if there is none. -/
def afterLast (mark : Char) (chars : List Char) : List Char :=
  (chars.reverse.takeWhile (· != mark)).reverse

end Proceedings
