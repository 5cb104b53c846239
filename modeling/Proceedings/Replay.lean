import Proceedings.Files.Store
import Proceedings.Recorder
import Proceedings.Text.Blank
import Proceedings.Wire.Decode

/-! # Replay

The log of a session is a file of events: one JSON array, or one JSON value a line with any number
of blank lines between them. Replaying it records the events once more. The session starts with the
earliest of them and ends with the latest.
-/

namespace Proceedings.Replay

/-- A line that is no JSON is reported with its place. A number that is too long counts as JSON. -/
def lineFailure (path : Path) (line : Nat) (e : Json.ReadError) : Failure :=
  match e with
  | .malformed .. => .breach (.badLine path line e)
  | .digits _ => .unreadable e

/-- The values on lines, the first of which has the given number. -/
def readLines (path : Path) : Nat → List Text → Except Failure (List Value)
  | _, [] => .ok []
  | number, line :: rest =>
    if line.isBlank then readLines path (number + 1) rest
    else do
      let v ← (Json.read line).mapError (lineFailure path number)
      return v :: (← readLines path (number + 1) rest)

/-- The values of a log. It is an array if the first thing in it is a bracket. -/
def readValues (path : Path) (t : Text) : Except Failure (List Value) :=
  if t.trimStart.head? = some (.scalar '[') then do
    let v ← (Json.read t.trimStart).mapError .unreadable
    v.iterate
  else readLines path 1 t.lines

/-- The text of a file, with plain line feeds. -/
def readText (path : Path) (files : FileStore) : Except Failure Text := do
  let bytes ← (files.read path).mapError .file
  let t ← (Utf8.decode bytes).mapError .undecodable
  return t.unifyNewlines

/-- The events of a log. -/
def loadEvents (path : Path) (files : FileStore) : Except Failure (List Event) := do
  let values ← readValues path (← readText path files)
  values.mapM Wire.parseEvent

/-- The participants in a file of the same form as a log. -/
def loadParticipants (path : Path) (files : FileStore) : Except Failure (List Participant) := do
  let values ← readValues path (← readText path files)
  values.mapM Wire.parseParticipant

/-- The first of the earliest readings. -/
def earliest (d : DateTime) (others : List DateTime) : DateTime :=
  others.foldl (fun best e => if e.before best then e else best) d

/-- The first of the latest readings. -/
def latest (d : DateTime) (others : List DateTime) : DateTime :=
  others.foldl (fun best e => if best.before e then e else best) d

/-- The recorder calls that make up a replay. No call reads the clock. -/
def calls (events : List Event) (initial : List Participant) : List RecorderCall :=
  let participants := Value.list (initial.map .participant)
  match events with
  | [] => [.addInitial participants]
  | e :: rest =>
    let others := rest.map (·.timestamp)
    .started (.time (earliest e.timestamp others)) participants ::
      events.map (fun e => .addEvent (.event e)) ++ [.ended (.time (latest e.timestamp others))]

/-- The recorder after the calls of a replay. Events and participants that were read from a log are
never refused. -/
def record (roomName : Value) (events : List Event) (initial : List Participant) : Recorder :=
  (Recorder.performAll (calls events initial) (.new roomName, .ofList [])).1

end Proceedings.Replay
