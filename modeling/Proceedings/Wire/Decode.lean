import Proceedings.Records
import Proceedings.Wire.Encode

/-! # Decoding

Payloads back to records. Required keys must be there and not null; optional ones may be missing,
and texts are made of most values. Live messages count as the event that they carry.
-/

namespace Proceedings.Wire

/-- The value under a required key of a value that must be an object. -/
def field (what : String) (data : Value) (name : String) : Except Failure Value :=
  match data with
  | .object fields =>
    match Fields.get? fields (key name) with
    | none => .error (.breach (.missingKey what name))
    | some .null => .error (.breach (.missingKey what name))
    | some v => .ok v
  | v => .error (.breach (.notObject what v))

/-- The value under an optional key; null if there is none. -/
def optional (data : Value) (name : String) : Value :=
  match data with
  | .object fields => Value.ofOption (Fields.get? fields (key name))
  | _ => .null

/-- The event that a live message carries; any other value stands for itself. -/
def unwrapLive (data : Value) : Except Failure Value :=
  match data with
  | .object fields =>
    if Fields.has fields topicKey then field "live message" data "payload" else .ok data
  | _ => .ok data

def parseParticipant (data : Value) : Except Failure Participant := do
  let id ← field "participant" data "id"
  return ⟨(optional data "name").orElse (.str ""), .text id.toText,
    (optional data "email").orElse .null, (optional data "avatar_url").orElse .null⟩

/-- A number as a binary one; an absent number is zero. -/
def number (what : String) : Value → Except Failure Value
  | .null => .ok (.float .zero)
  | .int n => match Binary64.ofInt? n with
    | some x => .ok (.float x)
    | none => .error .integerRange
  | .float x => .ok (.float x)
  | v => .error (.breach (.notNumber what v))

/-- The items of an array; an absent array has none. -/
def array (what : String) : Value → Except Failure (List Value)
  | .null => .ok []
  | .list items => .ok items
  | v => .error (.breach (.notArray what v))

def parseAlternative (item : Value) : Except Failure Value := do
  let text ← field "alternative" item "text"
  let confidence ← number "alternative confidence" (optional item "confidence")
  return .alternative ⟨.text text.toText, confidence⟩

def parseResult (data : Value) : Except Failure SpeechResult := do
  let items ← array "transcript" (← field "SPEECH event" data "transcript")
  let alternatives ← items.mapM parseAlternative
  let language := (optional data "language").orElse (.str "")
  let messageId ← field "SPEECH event" data "message_id"
  let stability ← number "stability" (optional data "stability")
  return ⟨alternatives, .text language.toText, .bool (optional data "is_interim").isTruthy,
    .text messageId.toText, stability⟩

def parseOccurrence (data : Value) : EventKind → Except Failure Occurrence
  | .join => .ok .join
  | .leave => .ok .leave
  | .raiseHand => .ok .raiseHand
  | .speech => .speech <$> parseResult data

/-- Reads an event, bare or in a live message. -/
def parseEvent (message : Value) : Except Failure Event := do
  let data ← unwrapLive message
  let name ← field "event" data "event"
  let some kind := EventKind.ofValue? name | .error (.breach (.unknownKind name))
  let timestamp ← parseInstant (← field "event" data "timestamp")
  let participant ← parseParticipant (← field "event" data "participant")
  let occurrence ← parseOccurrence data kind
  return ⟨timestamp, participant, occurrence⟩

/-- Reads a time that may be absent or empty. -/
def optionalTime (v : Value) : Except Failure Value :=
  if v.isTruthy then .time <$> parseInstant v else .ok .null

def parseTranscript (data : Value) : Except Failure Transcript :=
  match data with
  | .object _ => do
    let participants ← array "initial_participants" (optional data "initial_participants")
    let events ← array "events" (optional data "events")
    let start ← optionalTime (optional data "start_time")
    let stop ← optionalTime (optional data "end_time")
    let initial ← participants.mapM fun p => Value.participant <$> parseParticipant p
    let events ← events.mapM fun e => Value.event <$> parseEvent e
    return ⟨(optional data "room_name").orElse .null, start, stop, initial, events⟩
  | v => .error (.breach (.notObject "transcript" v))

end Proceedings.Wire
