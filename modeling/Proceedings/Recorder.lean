import Proceedings.Clock
import Proceedings.Outcome
import Proceedings.Records
import Proceedings.Sorting.Basic
import Proceedings.Value.Equality

/-! # Recorder

A recorder collects what happens in a session. The times of start and end are set once, the
participants present at the start are kept once each, and events are only ever added. What it holds
so far can be frozen into a transcript at any time; there the events are sorted by their times, and
those of which neither time is before the other stand in the order in which they were recorded.
-/

namespace Proceedings

/-- What has been recorded of a session. -/
structure Recorder where
  roomName : Value
  startTime : Option DateTime
  endTime : Option DateTime
  initial : List Participant
  events : List Event

/-- A reading whose instant is known. -/
def Value.recordedTime : Value → Except Failure DateTime
  | .time d => if d.isAware then .ok d else .error (.breach (.recordedTime (.time d)))
  | v => .error (.breach (.recordedTime v))

/-- Sets the time of the start or the end, unless it is set already. -/
def settle (mark : Option DateTime) (verb : String) (given : Value) (c : Clock) :
    Outcome (Option DateTime × Clock) Unit :=
  match mark with
  | some d =>
    let time := String.ofList (d.isoChars ' ')
    ⟨(mark, c), [⟨.debug, .ofString s!"Transcript already {verb} at {time}"⟩], .ok ()⟩
  | none =>
    let (v, c) := c.stamp given
    match v.recordedTime with
    | .ok d => .done (some d, c) ()
    | .error f => .failed (none, c) f

def Event.before (e f : Event) : Bool := e.timestamp.before f.timestamp

/-- A call on a recorder. A time that is null is to be read from the clock. -/
inductive RecorderCall where
  | setRoomName (name : Value)
  | started (given : Value) (initial : Value)
  | ended (given : Value)
  | addInitial (participants : Value)
  | addEvent (event : Value)
  | notify (k : EventKind) (participant result given : Value)

namespace Recorder

variable (r : Recorder)

def new (roomName : Value) : Recorder := ⟨roomName, none, none, [], []⟩

/-- Whether a participant with an id is among the initial ones. -/
def knows (id : Value) : Bool :=
  r.initial.any fun p => p.id.equals id

/-- Adds an initial participant, unless one with the same id is there. -/
def offer (v : Value) : Except Failure Recorder :=
  match v with
  | .participant p =>
    match p.id.unhashable? with
    | some type => .error (.unhashable type)
    | none => .ok (if r.knows p.id then r else { r with initial := r.initial ++ [p] })
  | v => .error (.breach (.initialParticipant v))

/-- Adds initial participants up to the first value that is refused. -/
def offerAll : List Value → Recorder → Outcome Recorder Unit
  | [], r => .done r ()
  | v :: rest, r => match r.offer v with
    | .ok r => offerAll rest r
    | .error f => .failed r f

/-- Adds the initial participants that a value yields. -/
def addInitial (participants : Value) : Outcome Recorder Unit :=
  match participants.iterate with
  | .ok items => offerAll items r
  | .error f => .failed r f

/-- Adds an event whose instant is known. -/
def append (e : Event) : Outcome Recorder Event :=
  match (Value.time e.timestamp).recordedTime with
  | .ok _ => .done { r with events := r.events ++ [e] } e
  | .error f => .failed r f

/-- Adds a value that is an event. -/
def addEvent (v : Value) : Outcome Recorder Event :=
  match v with
  | .event e => r.append e
  | v => .failed r (.breach (.notEvent v))

/-- Carries out a call; one that adds an event answers with it. -/
def perform (c : Clock) : RecorderCall → Outcome (Recorder × Clock) (Option Event)
  | .setRoomName name => .done ({ r with roomName := name }, c) none
  | .started given initial =>
    ((settle r.startTime "started" given c).within
      fun (mark, c) => ({ r with startTime := mark }, c)).andThen fun (r, c) _ =>
        if initial.isNull then .done (r, c) none
        else ((r.addInitial initial).within (·, c)).map fun _ => none
  | .ended given =>
    ((settle r.endTime "ended" given c).within
      fun (mark, c) => ({ r with endTime := mark }, c)).map fun _ => none
  | .addInitial participants => ((r.addInitial participants).within (·, c)).map fun _ => none
  | .addEvent event => ((r.addEvent event).within (·, c)).map some
  | .notify k participant result given =>
    let (time, c) := c.stamp given
    match Event.ofKind k time participant result with
    | .ok e => ((r.append e).within (·, c)).map some
    | .error f => .failed (r, c) f

/-- The events sorted by their times. -/
def chronological (events : List Event) : List Event :=
  Sorting.sort Event.before events

def freeze : Transcript :=
  ⟨r.roomName, Value.ofOption (r.startTime.map .time), Value.ofOption (r.endTime.map .time),
    r.initial.map .participant, (chronological r.events).map .event⟩

end Recorder

/-- Carries out calls one after the other, whether or not they succeed. -/
def Recorder.performAll : List RecorderCall → Recorder × Clock → Recorder × Clock
  | [], s => s
  | call :: rest, (r, c) => performAll rest (r.perform c call).state

end Proceedings
