import Proceedings.Sorting.Search

/-! # Merging two runs

Two neighbouring runs are merged into one. Elements that are in their places already are left where
they are. Of the rest the shorter run is set aside, and the merge goes from the front if that is the
first run and else from the back. It goes element by element until one run has won often enough in
a row, and then in leaps for as long as they are long.
-/

namespace Proceedings.Sorting

variable {α : Type}

/-- The way a merge goes: when an element of the other run comes before one of the run set aside,
and how many elements of a run come before one of the other. -/
structure Direction (α : Type) where
  comesFirst : α → α → Bool
  heldBefore : α → List α → Nat
  otherBefore : α → List α → Nat
  heldLeapsFirst : Bool

/-- From the front, with the first run set aside. -/
def Direction.forward (lt : α → α → Bool) : Direction α where
  comesFirst y x := lt y x
  heldBefore y held := gallop (fun x => !lt y x) held 0
  otherBefore x other := gallop (fun y => lt y x) other 0
  heldLeapsFirst := true

/-- From the back, with the second run set aside; both runs are turned around. -/
def Direction.backward (lt : α → α → Bool) : Direction α where
  comesFirst y x := lt x y
  heldBefore y held := held.length - gallop (fun x => lt x y) held.reverse (held.length - 1)
  otherBefore x other := other.length - gallop (fun y => !lt x y) other.reverse (other.length - 1)
  heldLeapsFirst := false

/-- What is merged so far, and what is left of the run set aside and of the other. -/
structure Merging (α : Type) where
  merged : List α
  held : List α
  other : List α

/-- A merge goes element by element, having taken so many in a row from one of the runs, or in
leaps. -/
inductive Pace where
  | steps (held other : Nat)
  | leaps

namespace Merging

variable (d : Direction α) (m : Merging α)

/-- A merge is over when nothing is left of the other run, or at most one element of the one set
aside. -/
def isOver : Bool := m.other.isEmpty || m.held.length ≤ 1

def result : List α := m.merged ++ m.other ++ m.held

def takeHeld (n : Nat) : Merging α :=
  ⟨m.merged ++ m.held.take n, m.held.drop n, m.other⟩

def takeOther (n : Nat) : Merging α :=
  ⟨m.merged ++ m.other.take n, m.held, m.other.drop n⟩

/-- Takes what comes before the first element of the other run, and then that element. Gives the
length of the leap too. -/
def leapHeld : Merging α × Nat :=
  match m.isOver, m.other with
  | false, y :: _ =>
    let n := d.heldBefore y m.held
    let m := m.takeHeld n
    (if m.isOver then m else m.takeOther 1, n)
  | _, _ => (m, 0)

/-- Takes what comes before the first element of the run set aside, and then that element. -/
def leapOther : Merging α × Nat :=
  match m.isOver, m.held with
  | false, x :: _ =>
    let n := d.otherBefore x m.other
    let m := m.takeOther n
    (if m.isOver then m else m.takeHeld 1, n)
  | _, _ => (m, 0)

/-- A leap in either run. -/
def leapBoth : Merging α × Nat × Nat :=
  if d.heldLeapsFirst then
    let (m, n) := m.leapHeld d
    let (m, k) := m.leapOther d
    (m, n, k)
  else
    let (m, n) := m.leapOther d
    let (m, k) := m.leapHeld d
    (m, n, k)

/-- How a merge goes on, and how often a run must win in a row before leaps are tried. -/
def step (patience : Nat) : Pace → Merging α × Pace × Nat
  | .steps h o =>
    match m.held, m.other with
    | x :: _, y :: _ =>
      if d.comesFirst y x then
        (m.takeOther 1, if patience ≤ o + 1 then .leaps else .steps 0 (o + 1), patience)
      else
        (m.takeHeld 1, if patience ≤ h + 1 then .leaps else .steps (h + 1) 0, patience)
    | _, _ => (m, .steps h o, patience)
  | .leaps =>
    let (next, n, k) := m.leapBoth d
    if next.isOver then (next, .leaps, patience)
    else if 7 ≤ n ∨ 7 ≤ k then (next, .leaps, if 1 < patience then patience - 1 else patience)
    else (next, .steps 0 0, patience + 1)

/-- How much is left to be merged. -/
def size : Nat := m.held.length + m.other.length

variable {d m}

theorem isOver_eq_false_iff : m.isOver = false ↔ m.other ≠ [] ∧ 1 < m.held.length := by
  simp [isOver]

theorem isOver_eq_true_iff : m.isOver = true ↔ m.other = [] ∨ m.held.length ≤ 1 := by
  simp [isOver]

theorem size_leapHeld (h : m.isOver = false) : (m.leapHeld d).1.size < m.size := by
  obtain ⟨hother, hheld⟩ := isOver_eq_false_iff.mp h
  obtain ⟨y, ys, hys⟩ := List.exists_cons_of_ne_nil hother
  simp only [leapHeld, h, hys]
  split
  · next hover =>
    rcases isOver_eq_true_iff.mp hover with hnil | hshort
    · exact absurd hnil hother
    · simp only [takeHeld, size] at hshort ⊢
      omega
  · simp only [takeHeld, takeOther, size, hys, List.length_drop, List.length_cons]
    omega

theorem size_leapOther (h : m.isOver = false) : (m.leapOther d).1.size < m.size := by
  obtain ⟨hother, hheld⟩ := isOver_eq_false_iff.mp h
  obtain ⟨x, xs, hxs⟩ := List.exists_cons_of_length_pos (Nat.zero_lt_of_lt hheld)
  have hpos := List.length_pos_iff.mpr hother
  simp only [leapOther, h, hxs]
  split
  · next hover =>
    rcases isOver_eq_true_iff.mp hover with hnil | hshort
    · simp only [takeOther] at hnil
      simp only [takeOther, size, hnil, List.length_nil]
      omega
    · exact absurd hshort (Nat.not_le.mpr hheld)
  · simp only [takeHeld, takeOther, size, hxs, List.length_drop, List.length_cons]
    omega

theorem leapHeld_of_isOver (h : m.isOver = true) : m.leapHeld d = (m, 0) := by
  simp [leapHeld, h]

theorem leapOther_of_isOver (h : m.isOver = true) : m.leapOther d = (m, 0) := by
  simp [leapOther, h]

theorem size_leapHeld_le : (m.leapHeld d).1.size ≤ m.size := by
  cases h : m.isOver
  · exact Nat.le_of_lt (size_leapHeld h)
  · exact Nat.le_of_eq (congrArg (size ·.1) (leapHeld_of_isOver h))

theorem size_leapOther_le : (m.leapOther d).1.size ≤ m.size := by
  cases h : m.isOver
  · exact Nat.le_of_lt (size_leapOther h)
  · exact Nat.le_of_eq (congrArg (size ·.1) (leapOther_of_isOver h))

theorem size_leapBoth (h : m.isOver = false) : (m.leapBoth d).1.size < m.size := by
  unfold leapBoth
  split
  · exact Nat.lt_of_le_of_lt size_leapOther_le (size_leapHeld h)
  · exact Nat.lt_of_le_of_lt size_leapHeld_le (size_leapOther h)

theorem step_leaps_fst (patience : Nat) :
    (m.step d patience .leaps).1 = (m.leapBoth d).1 := by
  simp only [step]
  split
  · rfl
  · split <;> rfl

theorem size_step (h : m.isOver = false) (patience : Nat) (pace : Pace) :
    (m.step d patience pace).1.size < m.size := by
  cases pace with
  | steps i j =>
    obtain ⟨hother, hheld⟩ := isOver_eq_false_iff.mp h
    obtain ⟨y, ys, hys⟩ := List.exists_cons_of_ne_nil hother
    obtain ⟨x, xs, hxs⟩ := List.exists_cons_of_length_pos (Nat.zero_lt_of_lt hheld)
    simp only [step, hxs, hys]
    split <;> simp only [takeHeld, takeOther, size, hxs, hys, List.length_cons,
      List.drop_succ_cons, List.drop_zero] <;> omega
  | leaps =>
    rw [step_leaps_fst]
    exact size_leapBoth h

variable (d)

/-- Goes on to the end of a merge. -/
def run (m : Merging α) (pace : Pace) (patience : Nat) : List α × Nat :=
  match _h : m.isOver with
  | true => (m.result, patience)
  | false =>
    let s := m.step d patience pace
    run s.1 s.2.1 s.2.2
termination_by m.size
decreasing_by exact size_step ‹_› patience pace

end Merging

/-- Merges a run that is set aside and another one, whose first element is known to come first. -/
def merge (d : Direction α) (patience : Nat) (held other : List α) : List α × Nat :=
  Merging.run d (Merging.takeOther ⟨[], held, other⟩ 1) (.steps 0 0) patience

/-- Merges two runs of which the second has the element that comes first, and the first the one that
comes last. -/
def mergeRest (lt : α → α → Bool) (patience : Nat) (a b : List α) : List α × Nat :=
  if a.length ≤ b.length then merge (.forward lt) patience a b
  else
    let (merged, patience) := merge (.backward lt) patience b.reverse a.reverse
    (merged.reverse, patience)

/-- Merges two neighbouring runs. -/
def mergeRuns (lt : α → α → Bool) (patience : Nat) (a : List α) : List α → List α × Nat
  | [] => (a, patience)
  | y :: b =>
    let i := gallop (fun x => !lt y x) a 0
    match (a.drop i).getLast? with
    | none => (a ++ y :: b, patience)
    | some z =>
      let j := gallop (fun y => lt y z) (y :: b) b.length
      let (merged, patience) := mergeRest lt patience (a.drop i) ((y :: b).take j)
      (a.take i ++ merged ++ (y :: b).drop j, patience)

end Proceedings.Sorting
