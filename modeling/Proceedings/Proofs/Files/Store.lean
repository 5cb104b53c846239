import Proceedings.Files.Store
import Proceedings.Proofs.Answer
import Proceedings.Proofs.Files.Path

/-! # How a file store grows

Nothing that a store holds is replaced or removed. A node is added where there was none, and making
directories adds directories only.
-/

namespace Proceedings.FileStore

/-- A store after some nodes were added to another. -/
structure Grows (s s' : FileStore) (added : List (FilePlace × Node)) : Prop where
  entries : s'.entries = s.entries ++ added
  home : s'.home = s.home
  breaks : s'.breaks = s.breaks

variable {s s' s'' : FileStore} {p : Path} {q : FilePlace} {node : Node}
  {added more : List (FilePlace × Node)}

theorem Grows.refl (s : FileStore) : Grows s s [] := ⟨(List.append_nil _).symm, rfl, rfl⟩

theorem Grows.trans (h : Grows s s' added) (h' : Grows s' s'' more) :
    Grows s s'' (added ++ more) :=
  ⟨by rw [h'.entries, h.entries, List.append_assoc], h'.home.trans h.home,
    h'.breaks.trans h.breaks⟩

theorem grows_add (s : FileStore) (q : FilePlace) (node : Node) :
    Grows s (s.add q node) [(q, node)] := ⟨rfl, rfl, rfl⟩

theorem Grows.at?_eq (h : Grows s s' added) (hq : s.at? q = some node) : s'.at? q = some node := by
  unfold at? at hq ⊢
  split
  · next hempty => rwa [if_pos hempty] at hq
  · next hempty =>
    rw [if_neg hempty] at hq
    obtain ⟨entry, hfind, hnode⟩ := Option.map_eq_some_iff.mp hq
    rw [h.entries, List.find?_append, hfind, Option.some_or, Option.map_some, hnode]

theorem create_eq_ok (h : s.create p node = .ok s') :
    ∃ q, s.locate p = .ok q ∧ s.at? q = none ∧ s' = s.add q node := by
  unfold create at h
  split at h
  · cases h
  · next q hq =>
    split at h
    · cases h
    · next hnone => exact ⟨q, hq, hnone, (Except.ok.inj h).symm⟩

/-- Whether a node can be made does not depend on what it is. -/
theorem create_eq_error {e : FileError} (h : s.create p node = .error e) (other : Node) :
    s.create p other = .error e := by
  unfold create at h ⊢
  split at h
  · exact h
  · split at h
    · exact h
    · cases h

theorem writeNew_of_free (hq : s.locate p = .ok q) (hfree : s.at? q = none) (bytes : List UInt8) :
    s.writeNew p bytes = match s.breaks q with
      | none => (s.add q (.file bytes), .ok ())
      | some b => (s.add q (.file (bytes.take b.written)), .error ⟨.write b.fault, p⟩) := by
  unfold writeNew
  rw [hq]
  dsimp only
  rw [hfree]
  cases s.breaks q <;> rfl

theorem writeNew_of_create_error {e : FileError} (h : s.create p node = .error e)
    (bytes : List UInt8) : s.writeNew p bytes = (s, .error e) := by
  unfold create at h
  split at h
  · next f hlocate =>
    obtain rfl := Except.error.inj h
    simp only [writeNew, hlocate]
  · next q hlocate =>
    split at h
    · next hthere =>
      obtain rfl := Except.error.inj h
      simp only [writeNew, hlocate, hthere]
    · cases h

def AreDirectories (added : List (FilePlace × Node)) : Prop := ∀ e ∈ added, e.2 = .directory

theorem AreDirectories.append (h : AreDirectories added) (h' : AreDirectories more) :
    AreDirectories (added ++ more) :=
  List.forall_mem_append.mpr ⟨h, h'⟩

theorem areDirectories_nil : AreDirectories [] := nofun

theorem grows_create_directory (h : s.create p .directory = .ok s') :
    ∃ added, Grows s s' added ∧ AreDirectories added := by
  obtain ⟨q, -, -, rfl⟩ := create_eq_ok h
  exact ⟨_, grows_add s q .directory, by simp [AreDirectories]⟩

section Directories

/-- The last step of making a directory: those above it are there, or cannot be made. -/
def settleDirectory (p : Path) (s : FileStore) : FileStore × Except FileError Unit :=
  match s.create p .directory with
  | .ok s => (s, .ok ())
  | .error e => (s, if s.isDirectory p then .ok () else .error e)

theorem makeDirectoriesUpTo_of_missing {levels : Nat} {p' : Path}
    (h : s.create p .directory = .error ⟨.missing, p'⟩) :
    makeDirectoriesUpTo (levels + 1) p s = match makeDirectoriesUpTo levels p.parent s with
      | (s, .ok ()) => settleDirectory p s
      | (s, .error e) => (s, .error e) := by
  conv_lhs => unfold makeDirectoriesUpTo
  simp only [h]
  rcases makeDirectoriesUpTo levels p.parent s with ⟨s', _ | _⟩ <;> rfl

theorem makeDirectoriesUpTo_of_not_missing {levels : Nat}
    (h : levels = 0 ∨ ∀ p', s.create p .directory ≠ .error ⟨.missing, p'⟩) :
    makeDirectoriesUpTo levels p s = settleDirectory p s := by
  unfold makeDirectoriesUpTo
  dsimp only
  split
  · next p' levels hmissing =>
    rcases h with h | h
    · cases h
    · exact absurd hmissing (h p')
  · rfl

theorem grows_settleDirectory (p : Path) (s : FileStore) :
    ∃ added, Grows s (settleDirectory p s).1 added ∧ AreDirectories added := by
  unfold settleDirectory
  split
  · next h => exact grows_create_directory h
  · exact ⟨[], .refl s, areDirectories_nil⟩

theorem grows_makeDirectoriesUpTo (levels : Nat) (p : Path) (s : FileStore) :
    ∃ added, Grows s (makeDirectoriesUpTo levels p s).1 added ∧ AreDirectories added := by
  induction levels generalizing p with
  | zero =>
    rw [makeDirectoriesUpTo_of_not_missing (.inl rfl)]
    exact grows_settleDirectory p s
  | succ levels ih =>
    by_cases h : ∃ p', s.create p .directory = .error ⟨.missing, p'⟩
    · obtain ⟨p', h⟩ := h
      obtain ⟨added, hadded, hdirectories⟩ := ih p.parent
      rw [makeDirectoriesUpTo_of_missing h]
      split
      · next s' hmade =>
        rw [hmade] at hadded
        obtain ⟨more, hmore, hmoredirectories⟩ := grows_settleDirectory p s'
        exact ⟨added ++ more, hadded.trans hmore, hdirectories.append hmoredirectories⟩
      · next s' e hmade =>
        rw [hmade] at hadded
        exact ⟨added, hadded, hdirectories⟩
    · rw [makeDirectoriesUpTo_of_not_missing (.inr fun p' hp' => h ⟨p', hp'⟩)]
      exact grows_settleDirectory p s

end Directories

section Child

theorem walk_append (place : FilePlace) (names : List FileName) (name : FileName) :
    s.walk place (names ++ [name]) = s.walk place names >>= fun q => s.walk q [name] := by
  induction names generalizing place with
  | nil => rfl
  | cons first names ih =>
    rw [List.cons_append, walk, walk]
    cases s.at? place with
    | none => rfl
    | some node =>
      cases node with
      | file => rfl
      | directory =>
        dsimp only
        split
        · rfl
        · split
          · exact ih _
          · exact ih _

theorem Grows.walk_eq (h : Grows s s' added) {place : FilePlace} {names : List FileName}
    (hq : s.walk place names = .ok q) : s'.walk place names = .ok q := by
  induction names generalizing place with
  | nil => exact hq
  | cons first names ih =>
    rw [walk] at hq ⊢
    cases hat : s.at? place with
    | none =>
      rw [hat] at hq
      cases hq
    | some node =>
      rw [hat] at hq
      rw [h.at?_eq hat]
      cases node with
      | file => cases hq
      | directory =>
        dsimp only at hq ⊢
        split
        · next hlong =>
          rw [if_pos hlong] at hq
          cases hq
        · next hlong =>
          rw [if_neg hlong] at hq
          split
          · next hup =>
            rw [if_pos hup] at hq
            exact ih hq
          · next hup =>
            rw [if_neg hup] at hq
            exact ih hq

theorem Grows.start_eq (h : Grows s s' added) (p : Path) : s'.start p = s.start p := by
  rw [start, start, h.home]

/-- A path leads somewhere if the system can be asked for it and the walk along it ends. -/
theorem locate_eq_ok_iff : s.locate p = .ok q ↔
    unaskable? p = none ∧ (FileName.ofText p.text).length ≤ maxPathLength ∧
      s.walk (s.start p) (p.parts.map FileName.ofText) = .ok q := by
  unfold locate
  cases unaskable? p with
  | some f => simp
  | none =>
    dsimp only
    split
    · next hlong => simp [Nat.not_le.mpr hlong]
    · next hlong => simp [Nat.not_lt.mp hlong]

theorem Grows.locate_eq (h : Grows s s' added) (hq : s.locate p = .ok q) :
    s'.locate p = .ok q := by
  obtain ⟨hask, hlength, hwalk⟩ := locate_eq_ok_iff.mp hq
  rw [← h.start_eq] at hwalk
  exact locate_eq_ok_iff.mpr ⟨hask, hlength, h.walk_eq hwalk⟩

theorem locate_child {name : Text} {place : FilePlace} (hname : name ≠ Text.ofString "..")
    (hp : s.locate p = .ok place) (h : s.locate (p.child name) = .ok q) :
    q = place ++ [FileName.ofText name] := by
  obtain ⟨-, -, hwalk⟩ := locate_eq_ok_iff.mp hp
  obtain ⟨hask, -, hchild⟩ := locate_eq_ok_iff.mp h
  have hbytes := ne_dots_of_unaskable? hask hname
  rw [Path.child, List.map_append, List.map_singleton, walk_append] at hchild
  obtain ⟨place', hplace, hlast⟩ := bind_eq_ok.mp hchild
  obtain rfl : place' = place := Except.ok.inj (hplace.symm.trans hwalk)
  rw [walk] at hlast
  split at hlast
  · cases hlast
  · cases hlast
  · split at hlast
    · cases hlast
    · rw [walk] at hlast
      exact (Except.ok.inj hlast).symm

theorem at?_add_self (hq : s.at? q = none) (node : Node) : (s.add q node).at? q = some node := by
  unfold at? at hq ⊢
  split at hq
  · cases hq
  · next hempty =>
    rw [Option.map_eq_none_iff] at hq
    rw [if_neg hempty, add, List.find?_append, hq, Option.none_or]
    simp

theorem exists_locate_of_isDirectory (h : s.isDirectory p = true) :
    ∃ q, s.locate p = .ok q ∧ s.at? q = some .directory := by
  unfold isDirectory at h
  split at h
  · next hfind =>
    unfold find at hfind
    split at hfind
    · cases hfind
    · next q hq =>
      split at hfind
      · next node hnode => exact ⟨q, hq, by rw [hnode, Except.ok.inj hfind]⟩
      · cases hfind
  · cases h

theorem exists_locate_of_settle (h : settleDirectory p s = (s', .ok ())) :
    ∃ q, s'.locate p = .ok q ∧ s'.at? q = some .directory := by
  unfold settleDirectory at h
  split at h
  · next s'' hmade =>
    obtain ⟨rfl, -⟩ := Prod.mk.inj h
    obtain ⟨q, hlocate, hnone, rfl⟩ := create_eq_ok hmade
    exact ⟨q, (grows_add s q .directory).locate_eq hlocate, at?_add_self hnone _⟩
  · obtain ⟨rfl, hdirectory⟩ := Prod.mk.inj h
    split at hdirectory
    · next hp => exact exists_locate_of_isDirectory hp
    · cases hdirectory

theorem exists_locate_of_make {levels : Nat} (h : makeDirectoriesUpTo levels p s = (s', .ok ())) :
    ∃ q, s'.locate p = .ok q ∧ s'.at? q = some .directory := by
  by_cases hsettle : levels = 0 ∨ ∀ p', s.create p .directory ≠ .error ⟨.missing, p'⟩
  · rw [makeDirectoriesUpTo_of_not_missing hsettle] at h
    exact exists_locate_of_settle h
  · push Not at hsettle
    obtain ⟨hlevels, p', hmissing⟩ := hsettle
    obtain ⟨levels, rfl⟩ := Nat.exists_eq_succ_of_ne_zero hlevels
    rw [makeDirectoriesUpTo_of_missing hmissing] at h
    split at h
    · exact exists_locate_of_settle h
    · cases h

end Child

end Proceedings.FileStore
