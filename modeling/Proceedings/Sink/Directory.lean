import Proceedings.Outcome

/-! # Directory sink

Writes each artifact to a file of its own in one directory, under the artifact's name, and never
over another file. The directory is made with the first artifact.
-/

namespace Proceedings.Directory

/-- A name that stands for a file in a directory, and for nothing else. -/
def isPlainName (id : Text) : Bool :=
  !id.isEmpty && (Path.ofText id).name == id && id != .ofString "." && id != .ofString ".."

def pathFor (directory : Path) (id : Text) : Except Failure Path :=
  if isPlainName id then .ok (directory.child id)
  else .error (.undelivered id (.ofString "artifact id is not a plain file name") none)

/-- A delivery that a file error stops. What the file system cannot even be asked for is no failed
delivery. -/
def undelivered (id reason : Text) (e : FileError) : Failure :=
  match e.fault with
  | .embeddedNul | .unencodable _ => .file e
  | _ => .undelivered id reason (some (.file e))

/-- Why the directory of an artifact cannot be made. -/
def createReason (directory : Path) (e : FileError) : Text :=
  .ofString "could not create " ++ directory.text ++ .ofString s!": {e.message}"

/-- Why an artifact cannot be written. -/
def writeReason (path : Path) (e : FileError) : Text :=
  match e.fault with
  | .exists => path.text ++ .ofString " already exists"
  | _ => .ofString "could not write " ++ path.text ++ .ofString s!": {e.message}"

/-- Writes a text to a new file. The file is made first, so it stays, and stays empty, if the text
has no bytes. Answers with the number of bytes. -/
def writeNew (path : Path) (content : Text) (files : FileStore) :
    FileStore × Except (Sum FileError Utf8.EncodeError) Nat :=
  match Utf8.encode content with
  | .ok bytes =>
    match files.writeNew path bytes with
    | (files, .ok ()) => (files, .ok bytes.length)
    | (files, .error e) => (files, .error (.inl e))
  | .error e =>
    match files.create path (.file []) with
    | .ok files => (files, .error (.inr e))
    | .error e => (files, .error (.inl e))

/-- Writes the text of an artifact to its file in a directory that is there. -/
def deliver (path : Path) (id : Text) (content : Text) (files : FileStore) :
    Outcome FileStore Unit :=
  match writeNew path content files with
  | (files, .ok count) =>
    ⟨files, [⟨.info, .ofString "Saved transcript " ++ path.text ++ .ofString s!" ({count} bytes)"⟩],
      .ok ()⟩
  | (files, .error (.inl e)) => .failed files (undelivered id (writeReason path e) e)
  | (files, .error (.inr e)) => .failed files (.unencodable e)

def persist (directory : Path) (id : Text) (payload : Value) (files : FileStore) :
    Outcome FileStore Unit :=
  match pathFor directory id with
  | .error f => .failed files f
  | .ok path => match serialize payload with
    | .error f => .failed files f
    | .ok content => match files.makeDirectories directory with
      | (files, .error e) => .failed files (undelivered id (createReason directory e) e)
      | (files, .ok ()) => deliver path id content files

end Proceedings.Directory
