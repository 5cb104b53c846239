import Proceedings.CommandLine.Publication
import Proceedings.Proofs.Files.Store

/-! # Files with other content

Nothing but reading a file depends on its content: whether paths lead anywhere, what can be made and
what is made are the same in two stores that differ in the content of a file only.
-/

namespace Proceedings

namespace FileStore

variable (place : FilePlace) (content : List UInt8)

def rewriteNode (q : FilePlace) : Node → Node
  | .file bytes => .file (if q = place then content else bytes)
  | .directory => .directory

/-- The store with new content in the file at a place, if there is one. -/
def rewrite (s : FileStore) : FileStore :=
  { s with entries := s.entries.map fun (q, node) => (q, rewriteNode place content q node) }

def HasFile (s : FileStore) : Prop := ∃ bytes, s.at? place = some (.file bytes)

variable {place content} {s s' : FileStore} {p : Path} {q : FilePlace} {node : Node}

theorem at?_rewrite (s : FileStore) (q : FilePlace) :
    (s.rewrite place content).at? q = (s.at? q).map (rewriteNode place content q) := by
  unfold at?
  split
  · rfl
  · have hfind : (s.rewrite place content).entries.find? (·.1 == q) =
        (s.entries.find? (·.1 == q)).map fun (r, node) => (r, rewriteNode place content r node) :=
      List.find?_map ..
    rw [hfind]
    cases h : s.entries.find? (·.1 == q) with
    | none => rfl
    | some entry =>
      have hplace : entry.1 = q := by simpa using List.find?_some h
      simp [hplace]

theorem walk_rewrite (s : FileStore) (start : FilePlace) (names : List FileName) :
    (s.rewrite place content).walk start names = s.walk start names := by
  induction names generalizing start with
  | nil => rfl
  | cons name names ih =>
    rw [walk, walk, at?_rewrite]
    cases s.at? start with
    | none => rfl
    | some node =>
      cases node with
      | file => rfl
      | directory => simp only [Option.map_some, rewriteNode, ih]

theorem locate_rewrite (s : FileStore) (p : Path) :
    (s.rewrite place content).locate p = s.locate p := by
  simp only [locate, walk_rewrite]
  rfl

theorem isDirectory_rewrite (s : FileStore) (p : Path) :
    (s.rewrite place content).isDirectory p = s.isDirectory p := by
  unfold isDirectory find
  rw [locate_rewrite]
  cases s.locate p with
  | error f => rfl
  | ok q =>
    dsimp only
    rw [at?_rewrite]
    rcases s.at? q with _ | _ | _ <;> rfl

theorem isFile_rewrite (s : FileStore) (p : Path) :
    (s.rewrite place content).isFile p = s.isFile p := by
  unfold isFile find
  rw [locate_rewrite]
  cases s.locate p with
  | error f => rfl
  | ok q =>
    dsimp only
    rw [at?_rewrite]
    rcases s.at? q with _ | _ | _ <;> rfl

theorem read_rewrite (h : s.HasFile place) (p : Path) :
    (s.rewrite place content).read p =
      if s.locate p = .ok place then .ok content else s.read p := by
  unfold read find
  rw [locate_rewrite]
  cases s.locate p with
  | error f => rfl
  | ok q =>
    dsimp only
    rw [at?_rewrite]
    by_cases hq : q = place
    · subst hq
      obtain ⟨bytes, hbytes⟩ := h
      simp [hbytes, rewriteNode]
    · rw [if_neg (by simpa using hq)]
      cases s.at? q with
      | none => rfl
      | some node => cases node <;> simp [rewriteNode, hq]

theorem rewrite_rewrite (s : FileStore) (first second : List UInt8) :
    (s.rewrite place first).rewrite place second = s.rewrite place second := by
  simp only [rewrite, List.map_map]
  congr 1
  refine List.map_congr_left ?_
  rintro ⟨q, node⟩ -
  cases node with
  | directory => rfl
  | file => by_cases hq : q = place <;> simp [rewriteNode, hq]

theorem rewrite_add (s : FileStore) (h : q ≠ place) (node : Node) :
    (s.add q node).rewrite place content = (s.rewrite place content).add q node := by
  cases node with
  | file bytes => simp [rewrite, add, rewriteNode, h]
  | directory => simp [rewrite, add, rewriteNode]

theorem HasFile.ne_of_free (h : s.HasFile place) (hq : s.at? q = none) : q ≠ place := by
  rintro rfl
  obtain ⟨bytes, hbytes⟩ := h
  rw [hq] at hbytes
  cases hbytes

theorem create_rewrite (h : s.HasFile place) (p : Path) (node : Node) :
    (s.rewrite place content).create p node =
      (s.create p node).map (rewrite place content) := by
  unfold create
  rw [locate_rewrite]
  cases s.locate p with
  | error f => rfl
  | ok q =>
    dsimp only
    rw [at?_rewrite]
    cases hq : s.at? q with
    | some node => rfl
    | none => exact congrArg Except.ok (rewrite_add s (h.ne_of_free hq) node).symm

theorem breaks_rewrite (s : FileStore) : (s.rewrite place content).breaks = s.breaks := rfl

theorem writeNew_rewrite (h : s.HasFile place) (p : Path) (bytes : List UInt8) :
    (s.rewrite place content).writeNew p bytes =
      ((s.writeNew p bytes).1.rewrite place content, (s.writeNew p bytes).2) := by
  unfold writeNew
  rw [locate_rewrite]
  cases s.locate p with
  | error f => rfl
  | ok q =>
    dsimp only
    rw [at?_rewrite, breaks_rewrite]
    cases hq : s.at? q with
    | some node => rfl
    | none =>
      have hne := h.ne_of_free hq
      cases s.breaks q with
      | none => simp only [Option.map_none, rewrite_add s hne]
      | some b => simp only [Option.map_none, rewrite_add s hne]

theorem create_rewrite_eq_error (h : s.HasFile place) {p : Path} {node : Node} {e : FileError} :
    (s.rewrite place content).create p node = .error e ↔ s.create p node = .error e := by
  rw [create_rewrite h]
  cases s.create p node <;> simp [Except.map]

theorem HasFile.rewrite (h : s.HasFile place) : (s.rewrite place content).HasFile place := by
  obtain ⟨bytes, hbytes⟩ := h
  exact ⟨content, by simp [at?_rewrite, hbytes, rewriteNode]⟩

theorem HasFile.grows {added : List (FilePlace × Node)} (h : s.HasFile place)
    (hgrows : Grows s s' added) : s'.HasFile place := by
  obtain ⟨bytes, hbytes⟩ := h
  exact ⟨bytes, hgrows.at?_eq hbytes⟩

theorem settleDirectory_rewrite (h : s.HasFile place) (p : Path) :
    settleDirectory p (s.rewrite place content) =
      ((settleDirectory p s).1.rewrite place content, (settleDirectory p s).2) := by
  unfold settleDirectory
  rw [create_rewrite h, isDirectory_rewrite]
  cases s.create p .directory <;> rfl

theorem makeDirectoriesUpTo_rewrite (h : s.HasFile place) (levels : Nat) (p : Path) :
    makeDirectoriesUpTo levels p (s.rewrite place content) =
      ((makeDirectoriesUpTo levels p s).1.rewrite place content,
        (makeDirectoriesUpTo levels p s).2) := by
  induction levels generalizing p with
  | zero =>
    rw [makeDirectoriesUpTo_of_not_missing (.inl rfl),
      makeDirectoriesUpTo_of_not_missing (.inl rfl), settleDirectory_rewrite h]
  | succ levels ih =>
    by_cases hmissing : ∃ p', s.create p .directory = .error ⟨.missing, p'⟩
    · obtain ⟨p', hmissing⟩ := hmissing
      have hmissing' : (s.rewrite place content).create p .directory = .error ⟨.missing, p'⟩ :=
        (create_rewrite_eq_error h).mpr hmissing
      rw [makeDirectoriesUpTo_of_missing hmissing, makeDirectoriesUpTo_of_missing hmissing', ih]
      obtain ⟨added, hgrows, -⟩ := grows_makeDirectoriesUpTo levels p.parent s
      cases hmade : makeDirectoriesUpTo levels p.parent s with
      | mk s' answer =>
        rw [hmade] at hgrows
        cases answer with
        | error e => rfl
        | ok => exact settleDirectory_rewrite (h.grows hgrows) p
    · have hnot : ∀ p', s.create p .directory ≠ .error ⟨.missing, p'⟩ :=
        fun p' hp' => hmissing ⟨p', hp'⟩
      have hnot' : ∀ p', (s.rewrite place content).create p .directory ≠ .error ⟨.missing, p'⟩ :=
        fun p' hp' => hnot p' ((create_rewrite_eq_error h).mp hp')
      rw [makeDirectoriesUpTo_of_not_missing (.inr hnot),
        makeDirectoriesUpTo_of_not_missing (.inr hnot'), settleDirectory_rewrite h]

end FileStore

section Sink

variable {place : FilePlace} {content : List UInt8} {s : FileStore}

theorem Directory.writeNew_rewrite (h : s.HasFile place) (path : Path) (text : Text) :
    writeNew path text (s.rewrite place content) =
      ((writeNew path text s).1.rewrite place content, (writeNew path text s).2) := by
  unfold writeNew
  cases Utf8.encode text with
  | ok bytes =>
    dsimp only
    rw [FileStore.writeNew_rewrite h]
    rcases s.writeNew path bytes with ⟨s', _ | _⟩ <;> rfl
  | error e =>
    dsimp only
    rw [FileStore.create_rewrite h]
    cases s.create path (.file []) <;> rfl

theorem Directory.deliver_rewrite (h : s.HasFile place) (path : Path) (id : Text) (text : Text) :
    deliver path id text (s.rewrite place content) =
      (deliver path id text s).within (FileStore.rewrite place content) := by
  unfold deliver
  rw [writeNew_rewrite h]
  rcases writeNew path text s with ⟨s', (e | e) | count⟩ <;> rfl

theorem Directory.persist_rewrite (h : s.HasFile place) (content : List UInt8)
    (directory : Path) (id : Text) (payload : Value) :
    persist directory id payload (s.rewrite place content) =
      (persist directory id payload s).within (FileStore.rewrite place content) := by
  unfold persist
  cases pathFor directory id with
  | error f => rfl
  | ok path =>
    dsimp only
    cases serialize payload with
    | error f => rfl
    | ok text =>
      dsimp only
      rw [FileStore.makeDirectories, FileStore.makeDirectoriesUpTo_rewrite h]
      obtain ⟨added, hgrows, -⟩ :=
        FileStore.grows_makeDirectoriesUpTo directory.parts.length directory s
      rw [FileStore.makeDirectories]
      cases hmade : FileStore.makeDirectoriesUpTo directory.parts.length directory s with
      | mk s' answer =>
        rw [hmade] at hgrows
        cases answer with
        | error e => rfl
        | ok => exact Directory.deliver_rewrite (h.grows hgrows) path id text

end Sink

end Proceedings
