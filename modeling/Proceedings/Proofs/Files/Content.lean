import Proceedings.Proofs.Files.Path
import Proceedings.Proofs.Files.Store

/-! # What files hold

The files of a store by their places, and by the paths that lead to them. A store that grows keeps
every file as it is, and adding directories adds no file.
-/

namespace Proceedings

namespace FileStore

def contentAt (s : FileStore) (place : FilePlace) : Option (List UInt8) :=
  match s.at? place with
  | some (.file bytes) => some bytes
  | _ => none

variable {s s' : FileStore} {p : Path} {q : FilePlace} {bytes : List UInt8}
  {added : List (FilePlace × Node)}

theorem contentAt_eq_some : s.contentAt q = some bytes ↔ s.at? q = some (.file bytes) := by
  unfold contentAt
  split <;> simp_all

theorem contentAt_of_at?_none (h : s.at? q = none) : s.contentAt q = none := by
  simp [contentAt, h]

theorem Grows.contentAt_eq (h : Grows s s' added) (hq : s.contentAt q = some bytes) :
    s'.contentAt q = some bytes :=
  contentAt_eq_some.mpr (h.at?_eq (contentAt_eq_some.mp hq))

/-- A place where there was nothing holds one of the nodes that were added, if it holds any. -/
theorem Grows.exists_of_at? (h : Grows s s' added) (hq : s.at? q = none) {node : Node}
    (hnode : s'.at? q = some node) : ∃ e ∈ added, e.2 = node := by
  unfold at? at hq hnode
  split at hq
  · cases hq
  · next hempty =>
    rw [if_neg hempty] at hnode
    obtain ⟨entry, hfind, rfl⟩ := Option.map_eq_some_iff.mp hnode
    rw [h.entries, List.find?_append, Option.map_eq_none_iff.mp hq, Option.none_or] at hfind
    exact ⟨entry, List.mem_of_find?_eq_some hfind, rfl⟩

theorem Grows.contentAt_of_areDirectories (h : Grows s s' added) (hadded : AreDirectories added)
    (q : FilePlace) : s'.contentAt q = s.contentAt q := by
  cases hq : s.at? q with
  | some node => rw [contentAt, contentAt, h.at?_eq hq, hq]
  | none =>
    rw [contentAt_of_at?_none hq]
    cases hq' : s'.at? q with
    | none => exact contentAt_of_at?_none hq'
    | some node =>
      obtain ⟨e, he, rfl⟩ := h.exists_of_at? hq hq'
      simp [contentAt, hq', hadded e he]

theorem at?_add_of_ne {r : FilePlace} (hr : r ≠ q) (node : Node) :
    (s.add q node).at? r = s.at? r := by
  unfold at?
  split
  · rfl
  · simp [add, List.find?_append, Ne.symm hr]

/-- A file that is added at a free place is the only one that is new. -/
theorem contentAt_add (hq : s.at? q = none) (bytes : List UInt8) (r : FilePlace) :
    (s.add q (.file bytes)).contentAt r = if r = q then some bytes else s.contentAt r := by
  split
  · next hr =>
    subst hr
    exact contentAt_eq_some.mpr (at?_add_self hq _)
  · next hr => rw [contentAt, contentAt, at?_add_of_ne hr]

section Reading

theorem read_eq_ok :
    s.read p = .ok bytes ↔ ∃ q, s.locate p = .ok q ∧ s.contentAt q = some bytes := by
  unfold read find contentAt
  cases s.locate p with
  | error f => simp
  | ok q =>
    rcases hq : s.at? q with _ | _ | _ <;> simp [hq]

theorem locate_eq_walk (hask : unaskable? p = none)
    (hlength : (FileName.ofText p.text).length ≤ maxPathLength) :
    s.locate p = s.walk (s.start p) (p.parts.map FileName.ofText) := by
  rw [locate, hask]
  exact if_neg (Nat.not_lt.mpr hlength)

theorem exists_locate_of_child {name : Text} (h : s.locate (p.child name) = .ok q) :
    ∃ place, s.locate p = .ok place ∧ s.at? place = some .directory := by
  obtain ⟨hask, hlength, hwalk⟩ := locate_eq_ok_iff.mp h
  rw [Path.child, List.map_append, List.map_singleton, walk_append] at hwalk
  obtain ⟨place, hplace, hname⟩ := bind_eq_ok.mp hwalk
  have hp := locate_eq_ok_iff.mpr
    ⟨unaskable?_of_child hask, length_text_le_of_child hlength, hplace⟩
  refine ⟨place, hp, ?_⟩
  rw [walk] at hname
  split at hname
  · cases hname
  · cases hname
  · next hdirectory => exact hdirectory

theorem makeDirectories_of_directory (hp : s.locate p = .ok q) (hq : s.at? q = some .directory) :
    s.makeDirectories p = (s, .ok ()) := by
  have hcreate : s.create p .directory = .error ⟨.exists, p⟩ := by simp only [create, hp, hq]
  have hdirectory : s.isDirectory p = true := by simp only [isDirectory, find, hp, hq]
  rw [makeDirectories, makeDirectoriesUpTo_of_not_missing (.inr (by simp [hcreate])),
    settleDirectory, hcreate, hdirectory]
  rfl

end Reading

end FileStore

end Proceedings
