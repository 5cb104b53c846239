/-! # Searching a sorted list

The place where a property ends that holds of the first elements of a list only. It is found by
halving the list; or, from a place near which it is expected, by leaps that grow until the property
changes, and by halving what the last leap passed over.
-/

namespace Proceedings.Sorting

variable {α : Type} (p : α → Bool)

/-- The number of elements before the place where a property ends, found by halving. -/
def bisect (l : List α) : Nat :=
  match h : l.drop (l.length / 2) with
  | [] => 0
  | y :: ys =>
    if p y then l.length / 2 + 1 + bisect ys else bisect (l.take (l.length / 2))
termination_by l.length
decreasing_by
  all_goals
    have hlength := congrArg List.length h
    simp only [List.length_drop, List.length_cons, List.length_take] at hlength ⊢
    omega

/-- Leaps along a list for as long as a property holds, each leap one more than twice as far from
the start as the last. Gives the last place where it held, and the first where it did not. -/
def leap (l : List α) (last next : Nat) : Nat × Nat :=
  match h : l[next]? with
  | none => (last, l.length)
  | some x => if p x then leap l next (2 * next + 1) else (last, next)
termination_by l.length - next
decreasing_by
  obtain ⟨hlt, -⟩ := List.getElem?_eq_some_iff.mp h
  omega

/-- The number of elements before the place where a property ends, looked for near a place. -/
def gallop (l : List α) (hint : Nat) : Nat :=
  if (l[hint]?).any p then
    let (last, next) := leap p (l.drop hint) 0 1
    let passed := ((l.drop hint).take next).drop (last + 1)
    hint + last + 1 + bisect p passed
  else
    let (last, next) := leap (! p ·) (l.take (hint + 1)).reverse 0 1
    let passed := (l.take (hint - last)).drop (hint + 1 - next)
    hint + 1 - next + bisect p passed

end Proceedings.Sorting
