import Proceedings.Sorting.Merge

/-! # Sorting a list by a comparison

A list is sorted run by run. Short runs are filled up, each element put in its place behind those
that do not come after it. The runs found so far wait to be merged: when another one is found, those
are merged whose boundary lies deeper in the halved list than the new boundary does, and at the end
all that are left. Which elements are compared is fixed by this, so the result is too, also if the
comparison is not consistent.
-/

namespace Proceedings.Sorting

variable {α : Type} (lt : α → α → Bool)

/-- An element and what follows it for as long as neighbours are related; and the rest. -/
def extend (r : α → α → Bool) (x : α) : List α → List α × List α
  | [] => ([x], [])
  | y :: l =>
    if r x y then (x :: (extend r y l).1, (extend r y l).2)
    else ([x], y :: l)

theorem extend_append (r : α → α → Bool) (x : α) (l : List α) :
    (extend r x l).1 ++ (extend r x l).2 = x :: l := by
  induction l generalizing x with
  | nil => rfl
  | cons y l ih =>
    rw [extend]
    split
    · exact congrArg (x :: ·) (ih y)
    · rfl

/-- The run at the front of a list, and the rest. A run that goes down is turned around. -/
def firstRun : List α → List α × List α
  | [] => ([], [])
  | [x] => ([x], [])
  | x :: y :: l =>
    if lt y x then
      let down := extend (fun x y => lt y x) x (y :: l)
      (down.1.reverse, down.2)
    else extend (fun x y => !lt y x) x (y :: l)

theorem extend_ne_nil (r : α → α → Bool) (x : α) (l : List α) : (extend r x l).1 ≠ [] := by
  cases l with
  | nil => exact List.cons_ne_nil x []
  | cons y l =>
    rw [extend]
    split <;> exact List.cons_ne_nil x _

theorem firstRun_perm (l : List α) : ((firstRun lt l).1 ++ (firstRun lt l).2).Perm l := by
  match l with
  | [] => exact .refl _
  | [x] => exact .refl _
  | x :: y :: l =>
    rw [firstRun]
    split
    · refine .trans (.append_right _ (List.reverse_perm _)) ?_
      rw [extend_append]
    · rw [extend_append]

theorem firstRun_ne_nil {l : List α} (h : l ≠ []) : (firstRun lt l).1 ≠ [] := by
  match l with
  | [x] => exact List.cons_ne_nil x []
  | x :: y :: l =>
    rw [firstRun]
    split
    · exact mt List.reverse_eq_nil_iff.mp (extend_ne_nil _ _ _)
    · exact extend_ne_nil _ _ _

/-- Puts an element behind those of a run that do not come after it. -/
def insert (run : List α) (x : α) : List α :=
  let i := bisect (fun y => !lt x y) run
  run.take i ++ x :: run.drop i

/-- The run at the front of a list, filled up to a length; and the rest. -/
def nextRun (length : Nat) (l : List α) : List α × List α :=
  let first := firstRun lt l
  let missing := length - first.1.length
  ((first.2.take missing).foldl (insert lt) first.1, first.2.drop missing)

theorem insert_perm (run : List α) (x : α) : (insert lt run x).Perm (x :: run) := by
  refine List.perm_middle.trans (.cons x ?_)
  rw [List.take_append_drop]

theorem foldl_insert_perm (run l : List α) : (l.foldl (insert lt) run).Perm (run ++ l) := by
  induction l generalizing run with
  | nil => rw [List.append_nil]; exact .refl _
  | cons x l ih =>
    refine (ih _).trans (.trans (.append_right l (insert_perm lt run x)) ?_)
    exact List.perm_middle.symm

theorem nextRun_perm (length : Nat) (l : List α) :
    ((nextRun lt length l).1 ++ (nextRun lt length l).2).Perm l := by
  let first := firstRun lt l
  let missing := length - first.1.length
  have hfilled : ((first.2.take missing).foldl (insert lt) first.1 ++ first.2.drop missing).Perm
      (first.1 ++ first.2.take missing ++ first.2.drop missing) :=
    (foldl_insert_perm lt _ _).append_right _
  rw [List.append_assoc, List.take_append_drop] at hfilled
  exact hfilled.trans (firstRun_perm lt l)

theorem nextRun_ne_nil (length : Nat) {l : List α} (h : l ≠ []) : (nextRun lt length l).1 ≠ [] := by
  intro hnil
  have hperm := foldl_insert_perm lt (firstRun lt l).1
    ((firstRun lt l).2.take (length - (firstRun lt l).1.length))
  have hempty := List.perm_nil.mp (hperm.symm.trans (.of_eq hnil))
  exact firstRun_ne_nil lt h (List.append_eq_nil_iff.mp hempty).1

/-- A run has at least one element. -/
theorem length_nextRun_lt (length : Nat) {l : List α} (h : l ≠ []) :
    (nextRun lt length l).2.length < l.length := by
  have hlength := (nextRun_perm lt length l).length_eq
  have hpos := List.length_pos_iff.mpr (nextRun_ne_nil lt length h)
  rw [List.length_append] at hlength
  omega

/-- The length up to which the runs of a list are filled up: its first six binary digits, one more
if any of the others is not zero. -/
def minRun (n : Nat) (rest : Nat := 0) : Nat :=
  if n < 64 then n + rest else minRun (n / 2) (max rest (n % 2))

/-- The place of the first binary digit in which the quotients of two numbers differ, the second
number being larger by a given one. -/
def firstDifference (n a d : Nat) : Nat :=
  if d = 0 ∨ n ≤ d ∨ a / n ≠ (a + d) / n then 1 else firstDifference n (2 * a) (2 * d) + 1
termination_by n - d

/-- The depth of the boundary of two neighbouring runs in a list: the first halving that parts their
midpoints. -/
def depth (n start first second : Nat) : Nat :=
  firstDifference n (2 * start + first) (first + second)

/-- A run that waits to be merged, and the depth of its boundary with the next one. -/
structure Pending (α : Type) where
  run : List α
  depth : Nat

/-- The runs found so far: those that wait, the nearest first, and the last one. -/
structure Runs (α : Type) where
  pending : List (Pending α)
  last : List α
  patience : Nat

/-- Merges a run with those that wait before it and whose boundaries lie deeper than a given one. -/
def collapse (depth : Nat) (patience : Nat) (run : List α) : List (Pending α) → Runs α
  | [] => ⟨[], run, patience⟩
  | p :: rest =>
    if depth < p.depth then
      let merged := mergeRuns lt patience p.run run
      collapse depth merged.2 merged.1 rest
    else ⟨p :: rest, run, patience⟩

/-- Merges all runs that wait: the last two, or the two before the last if their first one is
shorter than the last. -/
def collapseAll (patience : Nat) (run : List α) : List (Pending α) → List α
  | [] => run
  | [p] => (mergeRuns lt patience p.run run).1
  | p :: q :: rest =>
    if q.run.length < run.length then
      let merged := mergeRuns lt patience q.run p.run
      collapseAll merged.2 run (⟨merged.1, q.depth⟩ :: rest)
    else
      let merged := mergeRuns lt patience p.run run
      collapseAll merged.2 merged.1 (q :: rest)
termination_by pending => pending.length

/-- How deep the boundary between the last run and the next one lies. -/
def Runs.nextDepth (n : Nat) (r : Runs α) (next : List α) : Nat :=
  let start := r.pending.foldl (fun length p => length + p.run.length) 0
  depth n start r.last.length next.length

/-- Adds the next run of a list. -/
def Runs.push (n : Nat) (r : Runs α) (next : List α) : Runs α :=
  let depth := r.nextDepth n next
  let collapsed := collapse lt depth r.patience r.last r.pending
  ⟨⟨collapsed.last, depth⟩ :: collapsed.pending, next, collapsed.patience⟩

/-- Sorts the rest of a list, having found the runs before. -/
def sortRest (n : Nat) (r : Runs α) : List α → List α
  | [] => collapseAll lt r.patience r.last r.pending
  | x :: l =>
    sortRest n (r.push lt n (nextRun lt (minRun n) (x :: l)).1) (nextRun lt (minRun n) (x :: l)).2
termination_by l => l.length
decreasing_by exact length_nextRun_lt _ _ (List.cons_ne_nil _ _)

/-- Sorts a list. -/
def sort (l : List α) : List α :=
  let first := nextRun lt (minRun l.length) l
  sortRest lt l.length ⟨[], first.1, 7⟩ first.2

end Proceedings.Sorting
