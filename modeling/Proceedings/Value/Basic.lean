import Proceedings.Binary64.Basic
import Proceedings.Calendar.DateTime

/-! # Values

Whatever callers hand in, wire data, records or nonsense, is one tree of values. A session is
recorded as participants, events and transcripts: their fields are not checked when they are made,
so they hold values too. Only an event fixes its parts, so that speech always comes with a result
and nothing else does.
-/

namespace Proceedings

/-- The kinds of events. -/
inductive EventKind where
  | join
  | leave
  | raiseHand
  | speech
  deriving DecidableEq

namespace EventKind

/-- The kinds, in the order in which they are listed. -/
def all : List EventKind := [.join, .leave, .raiseHand, .speech]

def name : EventKind → String
  | .join => "JOIN"
  | .leave => "LEAVE"
  | .raiseHand => "RAISE_HAND"
  | .speech => "SPEECH"

def text (k : EventKind) : Text := Text.ofString k.name

def ofText? (t : Text) : Option EventKind :=
  all.find? fun k => k.text == t

end EventKind

/-- A universally unique identifier, a number of 128 bits. -/
structure Uuid where
  number : Fin 340282366920938463463374607431768211456
  deriving DecidableEq

mutual

/-- A value: null, a scalar, a container or a record. -/
inductive Value where
  | null
  | bool (b : Bool)
  | int (n : Int)
  | float (x : Binary64)
  | text (t : Text)
  | list (items : List Value)
  | tuple (items : List Value)
  | object (fields : List (Text × Value))
  | time (d : DateTime)
  | kind (k : EventKind)
  | uuid (u : Uuid)
  | participant (p : Participant)
  | alternative (a : Alternative)
  | result (r : SpeechResult)
  | event (e : Event)
  | transcript (t : Transcript)

structure Participant where
  name : Value
  id : Value
  email : Value
  avatarUrl : Value

structure Alternative where
  text : Value
  confidence : Value

/-- The ranked interpretations of an utterance, best first. Results with one message id revise one
utterance. -/
structure SpeechResult where
  alternatives : List Value
  language : Value
  isInterim : Value
  messageId : Value
  stability : Value

/-- What happened. -/
inductive Occurrence where
  | join
  | leave
  | raiseHand
  | speech (r : SpeechResult)

/-- Something that a participant did at a time. -/
structure Event where
  timestamp : DateTime
  participant : Participant
  occurrence : Occurrence

/-- The frozen record of a session. Absent parts are null or empty. -/
structure Transcript where
  roomName : Value
  startTime : Value
  endTime : Value
  initialParticipants : List Value
  events : List Value

end

instance : Inhabited Value := ⟨.null⟩

def Occurrence.kind : Occurrence → EventKind
  | .join => .join
  | .leave => .leave
  | .raiseHand => .raiseHand
  | .speech _ => .speech

/-- The result that an occurrence carries. -/
def Occurrence.result? : Occurrence → Option SpeechResult
  | .speech r => some r
  | _ => none

def Event.kind (e : Event) : EventKind := e.occurrence.kind

/-- The first interpretation of a result. -/
def SpeechResult.best? (r : SpeechResult) : Option Value := r.alternatives.head?

/-- The fields of an object, in order; keys are distinct. -/
abbrev Fields := List (Text × Value)

namespace Fields

def get? (fields : Fields) (key : Text) : Option Value :=
  (fields.find? (·.1 == key)).map (·.2)

def has (fields : Fields) (key : Text) : Bool :=
  fields.any (·.1 == key)

/-- Sets the value under a key: in place if the key is there, at the end if not. -/
def put : Fields → Text → Value → Fields
  | [], key, value => [(key, value)]
  | (k, v) :: rest, key, value =>
    if k == key then (k, value) :: rest else (k, v) :: put rest key value

end Fields

namespace Value

/-- A text value by its string. -/
def str (s : String) : Value := .text (Text.ofString s)

/-- An absent value is null. -/
def ofOption : Option Value → Value
  | some v => v
  | none => .null

/-- The text of a value that is a text; the kind of an event counts as its name. -/
def text? : Value → Option Text
  | .text t => some t
  | .kind k => some k.text
  | _ => none

def isNull : Value → Bool
  | .null => true
  | _ => false

def typeName : Value → String
  | .null => "NoneType"
  | .bool _ => "bool"
  | .int _ => "int"
  | .float _ => "float"
  | .text _ => "str"
  | .list _ => "list"
  | .tuple _ => "tuple"
  | .object _ => "dict"
  | .time _ => "datetime.datetime"
  | .kind _ => "EventType"
  | .uuid _ => "UUID"
  | .participant _ => "Participant"
  | .alternative _ => "TranscriptionAlternative"
  | .result _ => "TranscriptionResult"
  | .event _ => "TranscriptEvent"
  | .transcript _ => "Transcript"

/-- A value that counts as present: not null, false, zero or empty. -/
def isTruthy : Value → Bool
  | .null => false
  | .bool b => b
  | .int n => n != 0
  | .float x => !x.isZero
  | .text t => !t.isEmpty
  | .list items => !items.isEmpty
  | .tuple items => !items.isEmpty
  | .object fields => !fields.isEmpty
  | _ => true

/-- The value itself if it counts as present, and else another. -/
def orElse (v other : Value) : Value :=
  if v.isTruthy then v else other

end Value

end Proceedings
