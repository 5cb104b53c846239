import Proceedings.Files.Name
import Proceedings.Files.Path

/-! # File store

Files and directories by their places. A place is the list of names that leads to it from the top;
paths that do not start there start from a home, and double dots lead back. Nothing here replaces or
removes a file, so each place is written at most once; the writing may break off.
-/

namespace Proceedings

/-- What stands at a place. -/
inductive Node where
  | file (bytes : List UInt8)
  | directory

/-- The names that lead to a file or a directory from the top. -/
abbrev FilePlace := List FileName

/-- Why the writing of a file breaks off. -/
inductive WriteFault where
  | inputOutput
  | tooLarge
  | noSpace
  | overQuota
  deriving DecidableEq

def WriteFault.message : WriteFault → String
  | .inputOutput => "[Errno 5] Input/output error"
  | .tooLarge => "[Errno 27] File too large"
  | .noSpace => "[Errno 28] No space left on device"
  | .overQuota => "[Errno 122] Disk quota exceeded"

/-- The end of a writing that breaks off: how many bytes came to the file before, and why. -/
structure WriteBreak where
  written : Nat
  fault : WriteFault

/-- Why the file system refuses a path. -/
inductive FileFault where
  | missing
  | exists
  | notDirectory
  | isDirectory
  | nameTooLong
  | embeddedNul
  | unencodable (e : Utf8.EncodeError)
  | write (f : WriteFault)
  deriving DecidableEq

/-- A refused path. -/
structure FileError where
  fault : FileFault
  path : Path

def FileError.message (e : FileError) : String :=
  let path := e.path.text.quoted
  match e.fault with
  | .missing => s!"[Errno 2] No such file or directory: {path}"
  | .exists => s!"[Errno 17] File exists: {path}"
  | .notDirectory => s!"[Errno 20] Not a directory: {path}"
  | .isDirectory => s!"[Errno 21] Is a directory: {path}"
  | .nameTooLong => s!"[Errno 36] File name too long: {path}"
  | .embeddedNul => "embedded null byte"
  | .unencodable e => e.message
  | .write f => f.message

/-- Files and directories by their places, the place from which relative paths start, and where
writing breaks off. -/
structure FileStore where
  entries : List (FilePlace × Node)
  home : FilePlace
  breaks : FilePlace → Option WriteBreak

namespace FileStore

variable (s : FileStore)

/-- A store with no place where writing breaks off. -/
def sound (entries : List (FilePlace × Node)) (home : FilePlace) : FileStore :=
  ⟨entries, home, fun _ => none⟩

def empty : FileStore := sound [] []

/-- What stands at a place; at the top there is a directory. -/
def at? (place : FilePlace) : Option Node :=
  if place.isEmpty then some .directory else (s.entries.find? (·.1 == place)).map (·.2)

def add (place : FilePlace) (node : Node) : FileStore :=
  { s with entries := s.entries ++ [(place, node)] }

def maxNameLength : Nat := 255

/-- The greatest length of a path, in bytes. -/
def maxPathLength : Nat := 4095

/-- Follows names from a place on. Each is looked up in a directory. -/
def walk : FilePlace → List FileName → Except FileFault FilePlace
  | place, [] => .ok place
  | place, name :: rest =>
    match s.at? place with
    | none => .error .missing
    | some (.file _) => .error .notDirectory
    | some .directory =>
      if maxNameLength < name.length then .error .nameTooLong
      else if name = FileName.dots then walk place.dropLast rest
      else walk (place ++ [name]) rest

/-- Why the system cannot even be asked for a path. -/
def unaskable? (p : Path) : Option FileFault :=
  match FileName.fault? p.text with
  | some e => some (.unencodable e)
  | none => if (FileName.ofText p.text).contains 0 then some .embeddedNul else none

/-- The place where the walk along a path starts. -/
def start (p : Path) : FilePlace :=
  if p.root.isEmpty then s.home else []

/-- The place that a path leads to. -/
def locate (p : Path) : Except FileFault FilePlace :=
  match unaskable? p with
  | some f => .error f
  | none =>
    if maxPathLength < (FileName.ofText p.text).length then .error .nameTooLong
    else s.walk (s.start p) (p.parts.map FileName.ofText)

def find (p : Path) : Except FileFault Node :=
  match s.locate p with
  | .error f => .error f
  | .ok place => match s.at? place with
    | some node => .ok node
    | none => .error .missing

def isDirectory (p : Path) : Bool :=
  match s.find p with
  | .ok .directory => true
  | _ => false

/-- Whether a path leads to a file. A path that leads nowhere does not; one that cannot even be
looked up is an error. -/
def isFile (p : Path) : Except FileError Bool :=
  match s.find p with
  | .ok (.file _) => .ok true
  | .error .nameTooLong => .error ⟨.nameTooLong, p⟩
  | _ => .ok false

def read (p : Path) : Except FileError (List UInt8) :=
  match s.find p with
  | .ok (.file bytes) => .ok bytes
  | .ok .directory => .error ⟨.isDirectory, p⟩
  | .error f => .error ⟨f, p⟩

/-- Adds a node where there is none. -/
def create (p : Path) (node : Node) : Except FileError FileStore :=
  match s.locate p with
  | .error f => .error ⟨f, p⟩
  | .ok place => match s.at? place with
    | some _ => .error ⟨.exists, p⟩
    | none => .ok (s.add place node)

/-- Writes bytes into a new file. The file is made first, so it stays if the writing breaks off,
with the bytes that were written before. -/
def writeNew (p : Path) (bytes : List UInt8) : FileStore × Except FileError Unit :=
  match s.locate p with
  | .error f => (s, .error ⟨f, p⟩)
  | .ok place => match s.at? place, s.breaks place with
    | some _, _ => (s, .error ⟨.exists, p⟩)
    | none, none => (s.add place (.file bytes), .ok ())
    | none, some b => (s.add place (.file (bytes.take b.written)), .error ⟨.write b.fault, p⟩)

/-- Makes a directory with those above it that are missing, each level at most once. A directory
that is there already will do. What was made stays, also if a later step is refused. -/
def makeDirectoriesUpTo : Nat → Path → FileStore → FileStore × Except FileError Unit
  | levels, p, s =>
    let settle (s : FileStore) : FileStore × Except FileError Unit :=
      match s.create p .directory with
      | .ok s => (s, .ok ())
      | .error e => (s, if s.isDirectory p then .ok () else .error e)
    match s.create p .directory, levels with
    | .error ⟨.missing, _⟩, levels + 1 =>
      match makeDirectoriesUpTo levels p.parent s with
      | (s, .ok ()) => settle s
      | (s, .error e) => (s, .error e)
    | _, _ => settle s

def makeDirectories (p : Path) : FileStore × Except FileError Unit :=
  makeDirectoriesUpTo p.parts.length p s

/-- The names in a directory, sorted, with what they name. -/
def list? (p : Path) : Option (List (FileName × Node)) :=
  match s.locate p with
  | .error _ => none
  | .ok place => match s.at? place with
    | some .directory =>
      let inside := s.entries.filterMap fun (q, node) =>
        if !q.isEmpty && q.dropLast == place then q.getLast?.map (·, node) else none
      some (inside.mergeSort fun x y => !decide (y.1 < x.1))
    | _ => none

end FileStore

end Proceedings
