import Proceedings.Proofs.Files.Store
import Proceedings.Sink.Directory

/-! # Deliveries to a directory

A delivery needs a new file under the name of the artifact. If that can be made it is all that is
new, with the directories that lead to it. It is made before the text is turned into bytes, so it
stays, empty, if the text has none, and with a part of the bytes if the writing breaks off.
-/

namespace Proceedings

open FileStore

namespace FileStore

/-- A store that gained directories only. -/
def GainsNoFile (s s' : FileStore) : Prop := ∃ made, AreDirectories made ∧ Grows s s' made

/-- A store that gained one file, under a new name in a directory, and otherwise directories
only. -/
def GainsFile (directory : Path) (name : Text) (bytes : List UInt8) (s s' : FileStore) : Prop :=
  ∃ place made, let new := place ++ [FileName.ofText name]
    s'.locate directory = .ok place ∧ s.at? new = none ∧ AreDirectories made ∧
      Grows s s' (made ++ [(new, .file bytes)])

theorem GainsNoFile.refl (s : FileStore) : GainsNoFile s s := ⟨[], areDirectories_nil, .refl s⟩

theorem GainsFile.not_gainsNoFile {directory : Path} {name : Text} {bytes : List UInt8}
    {s s' : FileStore} (h : GainsFile directory name bytes s s') : ¬ GainsNoFile s s' := by
  rintro ⟨added, hadded, hgrows⟩
  obtain ⟨place, made, -, -, -, hfile⟩ := h
  have hsame := hgrows.entries.symm.trans hfile.entries
  rw [List.append_cancel_left hsame] at hadded
  cases hadded (place ++ [FileName.ofText name], .file bytes) (by simp)

end FileStore

namespace Directory

/-- A new file can be made under a name in a directory, once the directory is made. -/
def CanStore (directory : Path) (id : Text) (files : FileStore) : Prop :=
  isPlainName id = true ∧ ∃ made, files.makeDirectories directory = (made, .ok ()) ∧
    ∃ place, made.locate (directory.child id) = .ok place ∧ made.at? place = none

def break? (directory : Path) (id : Text) (files : FileStore) : Option WriteBreak :=
  match (files.makeDirectories directory).1.locate (directory.child id) with
  | .ok place => files.breaks place
  | .error _ => none

def brokenOff (directory : Path) (id : Text) (b : WriteBreak) : Failure :=
  let e : FileError := ⟨.write b.fault, directory.child id⟩
  .undelivered id (writeReason e.path e) (some (.file e))

variable {directory : Path} {id : Text} {payload : Value} {content : Text}
  {files files' : FileStore} {bytes : List UInt8}

theorem ne_dots_of_isPlainName (h : isPlainName id = true) : id ≠ .ofString ".." := by
  rintro rfl
  revert h
  decide

theorem create_of_free {s : FileStore} {p : Path} {q : FilePlace} (hq : s.locate p = .ok q)
    (hfree : s.at? q = none) (node : Node) : s.create p node = .ok (s.add q node) := by
  simp only [create, hq, hfree]

def CreatesFile (directory : Path) (id : Text) (bytes : List UInt8) (files files' : FileStore) :
    Prop :=
  isPlainName id = true ∧ ∃ made, files.makeDirectories directory = (made, .ok ()) ∧
    made.create (directory.child id) (.file bytes) = .ok files'

theorem CreatesFile.gainsFile (h : CreatesFile directory id bytes files files') :
    GainsFile directory id bytes files files' := by
  obtain ⟨hname, made, hmade, hcreate⟩ := h
  obtain ⟨place, hplace, -⟩ := exists_locate_of_make hmade
  obtain ⟨q, hq, hnone, rfl⟩ := create_eq_ok hcreate
  obtain rfl := locate_child (ne_dots_of_isPlainName hname) hplace hq
  obtain ⟨added, hadded, hdirectories⟩ :=
    grows_makeDirectoriesUpTo directory.parts.length directory files
  rw [makeDirectories] at hmade
  rw [hmade] at hadded
  have hfile := grows_add made (place ++ [FileName.ofText id]) (.file bytes)
  refine ⟨place, added, hfile.locate_eq hplace, ?_, hdirectories, hadded.trans hfile⟩
  by_contra hsome
  obtain ⟨node, hnode⟩ := Option.ne_none_iff_exists'.mp hsome
  rw [hadded.at?_eq hnode] at hnone
  cases hnone

theorem gainsNoFile_makeDirectories {made : FileStore} {answer : Except FileError Unit}
    (h : files.makeDirectories directory = (made, answer)) : GainsNoFile files made := by
  obtain ⟨added, hadded, hdirectories⟩ :=
    grows_makeDirectoriesUpTo directory.parts.length directory files
  rw [makeDirectories] at h
  rw [h] at hadded
  exact ⟨added, hdirectories, hadded⟩

theorem break?_eq {made : FileStore} {place : FilePlace}
    (hmade : files.makeDirectories directory = (made, .ok ()))
    (hplace : made.locate (directory.child id) = .ok place) :
    break? directory id files = made.breaks place := by
  obtain ⟨_, -, hgrows⟩ := gainsNoFile_makeDirectories hmade
  simp only [break?, hmade, hplace, hgrows.breaks]

section Persist

theorem persist_of_unwritable {f : Failure} (hname : isPlainName id = true)
    (hserialize : serialize payload = .error f) :
    persist directory id payload files = .failed files f := by
  simp only [persist, pathFor, hname, if_true, hserialize]

variable (hserialize : serialize payload = .ok content)

include hserialize

theorem persist_of_not_made {made : FileStore} {e : FileError} (hname : isPlainName id = true)
    (hmade : files.makeDirectories directory = (made, .error e)) :
    persist directory id payload files =
      .failed made (undelivered id (createReason directory e) e) := by
  simp only [persist, pathFor, hname, if_true, hserialize, hmade]

theorem persist_eq_deliver {made : FileStore} (hname : isPlainName id = true)
    (hmade : files.makeDirectories directory = (made, .ok ())) :
    persist directory id payload files = deliver (directory.child id) id content made := by
  simp only [persist, pathFor, hname, if_true, hserialize, hmade]

theorem persist_creates (h : CanStore directory id files)
    (hwhole : break? directory id files = none) (hbytes : Utf8.encode content = .ok bytes) :
    (persist directory id payload files).answer = .ok () ∧
      CreatesFile directory id bytes files (persist directory id payload files).state := by
  obtain ⟨hname, made, hmade, place, hplace, hfree⟩ := h
  rw [break?_eq hmade hplace] at hwhole
  have hcreate := create_of_free hplace hfree (.file bytes)
  rw [persist_eq_deliver hserialize hname hmade]
  simp only [deliver, writeNew, hbytes, writeNew_of_free hplace hfree, hwhole]
  exact ⟨trivial, hname, made, hmade, hcreate⟩

theorem persist_breaks {b : WriteBreak} (h : CanStore directory id files)
    (hbreak : break? directory id files = some b) (hbytes : Utf8.encode content = .ok bytes) :
    (persist directory id payload files).answer = .error (brokenOff directory id b) ∧
      CreatesFile directory id (bytes.take b.written) files
        (persist directory id payload files).state := by
  obtain ⟨hname, made, hmade, place, hplace, hfree⟩ := h
  rw [break?_eq hmade hplace] at hbreak
  have hcreate := create_of_free hplace hfree (.file (bytes.take b.written))
  rw [persist_eq_deliver hserialize hname hmade]
  simp only [deliver, writeNew, hbytes, writeNew_of_free hplace hfree, hbreak]
  exact ⟨rfl, hname, made, hmade, hcreate⟩

theorem persist_creates_empty {e : Utf8.EncodeError} (h : CanStore directory id files)
    (he : Utf8.encode content = .error e) :
    (persist directory id payload files).answer = .error (.unencodable e) ∧
      CreatesFile directory id [] files (persist directory id payload files).state := by
  obtain ⟨hname, made, hmade, place, hplace, hfree⟩ := h
  have hcreate := create_of_free hplace hfree (.file [])
  rw [persist_eq_deliver hserialize hname hmade]
  simp only [deliver, writeNew, he, hcreate]
  exact ⟨rfl, hname, made, hmade, hcreate⟩

theorem persist_of_canStore (h : CanStore directory id files)
    (hwhole : break? directory id files = none) (hbytes : Utf8.encode content = .ok bytes) :
    (persist directory id payload files).answer = .ok () ∧
      GainsFile directory id bytes files (persist directory id payload files).state := by
  obtain ⟨hanswer, hcreates⟩ := persist_creates hserialize h hwhole hbytes
  exact ⟨hanswer, hcreates.gainsFile⟩

/-- A text whose writing breaks off is not delivered, but leaves a file with what was written. -/
theorem persist_of_break {b : WriteBreak} (h : CanStore directory id files)
    (hbreak : break? directory id files = some b) (hbytes : Utf8.encode content = .ok bytes) :
    (persist directory id payload files).answer = .error (brokenOff directory id b) ∧
      GainsFile directory id (bytes.take b.written) files
        (persist directory id payload files).state := by
  obtain ⟨hanswer, hcreates⟩ := persist_breaks hserialize h hbreak hbytes
  exact ⟨hanswer, hcreates.gainsFile⟩

/-- A text that has no bytes leaves an empty file if a file can be made for it. -/
theorem persist_of_unencodable {e : Utf8.EncodeError} (h : CanStore directory id files)
    (he : Utf8.encode content = .error e) :
    (persist directory id payload files).answer = .error (.unencodable e) ∧
      GainsFile directory id [] files (persist directory id payload files).state := by
  obtain ⟨hanswer, hcreates⟩ := persist_creates_empty hserialize h he
  exact ⟨hanswer, hcreates.gainsFile⟩

omit hserialize

/-- A failed delivery, or a path that the file system cannot be asked for. -/
def IsUndelivered (id : Text) (f : Failure) : Prop :=
  (∃ reason cause, f = .undelivered id reason cause) ∨ ∃ e : FileError, f = .file e

theorem isUndelivered_undelivered (id reason : Text) (e : FileError) :
    IsUndelivered id (undelivered id reason e) := by
  unfold undelivered
  split
  · exact .inr ⟨e, rfl⟩
  · exact .inr ⟨e, rfl⟩
  · exact .inl ⟨_, _, rfl⟩

theorem deliver_of_create_error {path : Path} {node : Node} {e : FileError} (id : Text)
    (content : Text) (h : files.create path node = .error e) :
    deliver path id content files = .failed files (undelivered id (writeReason path e) e) := by
  unfold deliver writeNew
  cases Utf8.encode content with
  | ok bytes => simp only [writeNew_of_create_error h bytes]
  | error _ => simp only [create_eq_error h (.file [])]

theorem deliver_of_not_create (id : Text) (content : Text) {path : Path}
    (h : ¬ ∃ q, files.locate path = .ok q ∧ files.at? q = none) :
    ∃ f, IsUndelivered id f ∧ deliver path id content files = .failed files f := by
  cases hcreate : files.create path .directory with
  | ok s =>
    obtain ⟨q, hq, hfree, -⟩ := create_eq_ok hcreate
    exact absurd ⟨q, hq, hfree⟩ h
  | error e =>
    exact ⟨_, isUndelivered_undelivered id (writeReason path e) e,
      deliver_of_create_error id content hcreate⟩

include hserialize

theorem persist_of_not_created {made : FileStore} {node : Node} {e : FileError}
    (hname : isPlainName id = true) (hmade : files.makeDirectories directory = (made, .ok ()))
    (hcreate : made.create (directory.child id) node = .error e) :
    persist directory id payload files =
      .failed made (undelivered id (writeReason (directory.child id) e) e) := by
  rw [persist_eq_deliver hserialize hname hmade, deliver_of_create_error id content hcreate]

theorem persist_of_not_canStore (h : ¬ CanStore directory id files) :
    ∃ f, IsUndelivered id f ∧ (persist directory id payload files).answer = .error f ∧
      GainsNoFile files (persist directory id payload files).state := by
  cases hname : isPlainName id with
  | false =>
    refine ⟨_, .inl ⟨.ofString "artifact id is not a plain file name", none, rfl⟩, ?_⟩
    simp only [persist, pathFor, hname, Bool.false_eq_true, if_false]
    exact ⟨rfl, .refl files⟩
  | true =>
    cases hmade : files.makeDirectories directory with
    | mk made answer =>
      have hgains := gainsNoFile_makeDirectories hmade
      cases answer with
      | error e =>
        rw [persist_of_not_made hserialize hname hmade]
        exact ⟨_, isUndelivered_undelivered id _ e, rfl, hgains⟩
      | ok =>
        have hplace : ¬ ∃ q, made.locate (directory.child id) = .ok q ∧ made.at? q = none :=
          fun hplace => h ⟨hname, made, hmade, hplace⟩
        obtain ⟨f, hf, hdeliver⟩ := deliver_of_not_create id content hplace
        rw [persist_eq_deliver hserialize hname hmade, hdeliver]
        exact ⟨f, hf, rfl, hgains⟩

end Persist

end Directory

end Proceedings
