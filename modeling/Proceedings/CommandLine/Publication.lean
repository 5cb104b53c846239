import Proceedings.CommandLine.Arguments
import Proceedings.Guard
import Proceedings.Replay
import Proceedings.Settings
import Proceedings.Sink.Directory
import Proceedings.Sink.Webhook

/-! # Publication from the command line

The log that a command line names is replayed and published once, into a directory or to the
webhook. On success the name of the artifact is all that is printed; how far things got, and why
they stopped, is told on the side.
-/

namespace Proceedings.CommandLine

/-- What a run works on. -/
structure Surroundings where
  files : FileStore
  network : Network

/-- Where a run publishes to. -/
inductive Outlet where
  | directory (path : Path)
  | webhook (w : Webhook)

def Outlet.persist (o : Outlet) (id : Text) (payload : Value) (s : Surroundings) :
    Outcome Surroundings Unit :=
  match o with
  | .directory path =>
    (Directory.persist path id payload s.files).within fun files => { s with files := files }
  | .webhook w =>
    (w.persist id payload s.network).within fun network => { s with network := network }

/-- The path that an argument names. -/
def pathOf : Value → Except Failure Path
  | .text t => .ok (.ofText t)
  | v => .error (.notPath v.typeName)

/-- Where an invocation publishes to. The webhook is the one of the environment. -/
def outlet (env : Environment) (i : Invocation) : Except Failure Outlet :=
  if i.webhook then do
    let url ← Settings.requireWebhookUrl env
    return .webhook (← Webhook.make url true)
  else .directory <$> pathOf i.outputDirectory

/-- The formatter that an invocation names. -/
def formatter (suffix : String) (i : Invocation) : Except Failure Formatter :=
  match (Formatter.all suffix).find? fun f => (Value.str f.1).equals i.format with
  | some (_, f) => .ok f
  | none => .error (.unhashable i.format.typeName)

/-- The guard of the artifact of a run, and where it publishes to. The name of the artifact is the
given stem with the formatter's suffix. -/
def prepare (env : Environment) (suffix stem : String) (i : Invocation) :
    Except Failure (Guard × Outlet) := do
  let o ← outlet env i
  let f ← formatter suffix i
  return (.new (.ofString (stem ++ f.suffix)) f, o)

/-- The participants that were there from the start, if a file of them is named. -/
def initialParticipants (i : Invocation) (files : FileStore) :
    Except Failure (List Participant) :=
  if i.participants.isTruthy then do
    Replay.loadParticipants (← pathOf i.participants) files
  else .ok []

/-- The failures that end a run with a message. Any other is a fault of the program. -/
def isReported : Failure → Bool
  | .dateRange => false
  | .integerRange => false
  | .notIterable _ => false
  | .unhashable _ => false
  | .noAttribute .. => false
  | .notPath _ => false
  | .unwritable (.type _) => false
  | .client .value _ => true
  | .client _ _ => false
  | .notDelivered _ => false
  | .indexRange => false
  | _ => true

/-- What a run comes to: its exit code or the failure that it dies of, the lines that it prints and
those that it tells on the side, its log, and what it leaves behind. -/
structure Run where
  exit : Except Failure Nat
  printed : List Text
  told : List Text
  log : Log
  surroundings : Surroundings

namespace Run

def failed (s : Surroundings) (told : List Text) (f : Failure) : Run :=
  if isReported f then ⟨.ok 1, [], told ++ [.ofString "Error: " ++ f.report], [], s⟩
  else ⟨.error f, [], told, [], s⟩

end Run

def publish (g : Guard) (o : Outlet) (r : Recorder) (told : List Text) (s : Surroundings) : Run :=
  let told := told ++ [.ofString "Publishing transcript " ++ g.artifactId ++ .ofString "..."]
  let outcome := g.finalize o.persist (.recorder r) s
  let after := outcome.state.2
  match outcome.answer with
  | .ok _ => ⟨.ok 0, [g.artifactId], told ++ [.ofString "Done!"], outcome.log, after⟩
  | .error f => { Run.failed after told f with log := outcome.log }

/-- Replays the log of an invocation and publishes what it records. -/
def replay (env : Environment) (suffix stem : String) (i : Invocation) (s : Surroundings) : Run :=
  let path := Path.ofText i.eventsFile
  match Replay.loadEvents path s.files with
  | .error f => .failed s [] f
  | .ok events =>
    let told := [.ofString s!"Loaded {events.length} events from " ++ path.name]
    match initialParticipants i s.files with
    | .error f => .failed s told f
    | .ok initial =>
      match prepare env suffix stem i with
      | .error f => .failed s told f
      | .ok (g, o) => publish g o (Replay.record i.room events initial) told s

/-- Carries out an invocation, if the file of events is there. -/
def invoke (env : Environment) (suffix stem : String) (i : Invocation) (s : Surroundings) : Run :=
  let path := Path.ofText i.eventsFile
  match s.files.isFile path with
  | .error e => ⟨.error (.file e), [], [], [], s⟩
  | .ok false => ⟨.ok 1, [], [.ofString "Error: file not found: " ++ path.text], [], s⟩
  | .ok true => replay env suffix stem i s

def programName : String := "transcript_publisher"

/-- What a call for help prints. -/
def usage : String :=
  s!"usage: {programName} [-h] [--room ROOM] [--participants PARTICIPANTS] " ++
    "[--output-dir OUTPUT_DIR] [--webhook] [--format FORMAT] events_file"

/-- Carries out a command line. -/
def run (rule : DashRule) (env : Environment) (settings : Settings) (stem : String)
    (words : List Text) (s : Surroundings) : Run :=
  let formats := (Formatter.all settings.fileSuffix).map (·.1)
  match parse rule settings.outputDirectory formats words with
  | .error e =>
    ⟨.ok 2, [], [.ofString usage, .ofString s!"{programName}: error: " ++ e.message], [], s⟩
  | .ok none => ⟨.ok 0, [.ofString usage], [], [], s⟩
  | .ok (some i) => invoke env settings.fileSuffix stem i s

end Proceedings.CommandLine
