import Proceedings.Records
import Proceedings.Wire.ArtifactSchema
import Proceedings.Wire.Instant

/-! # Encoding

Records as payloads: objects with fixed keys in a fixed order. Optional parts are left out when they
are absent or empty, while the keys of speech are always there. Events stay in the order in which
the transcript holds them.
-/

namespace Proceedings.Wire

/-- The keys of the wire format. -/
def key (name : String) : Text := Text.ofString name

/-- A value that counts as absent: null, or an empty text or container. -/
def isAbsent : Value → Bool
  | .null => true
  | .text t => t.isEmpty
  | .list items => items.isEmpty
  | .tuple items => items.isEmpty
  | .object fields => fields.isEmpty
  | _ => false

/-- Sets a key unless the value is absent. -/
def putIfPresent (fields : Fields) (name : Text) (v : Value) : Fields :=
  if isAbsent v then fields else fields.put name v

/-- A value that must be neither null nor an empty text. -/
def require (what : String) (v : Value) : Except Failure Value :=
  match v with
  | .null => .error (.breach (.required what))
  | .text [] => .error (.breach (.required what))
  | v => .ok v

/-- A value, or the empty text for null. -/
def orEmptyText (v : Value) : Value :=
  if v.isNull then .str "" else v

def participantFields (p : Participant) : Except Failure Fields := do
  let id ← require "participant id" p.id
  let fields := [(key "name", orEmptyText p.name), (key "id", id)]
  return putIfPresent (putIfPresent fields (key "email") p.email) (key "avatar_url") p.avatarUrl

def encodeParticipant : Value → Except Failure Value
  | .participant p => .object <$> participantFields p
  | v => .error (.breach (.notParticipant v))

def encodeAlternative (v : Value) : Except Failure Value := do
  let text ← v.spokenText
  return .object [(key "text", text), (key "confidence", ← v.confidence)]

/-- The payloads of the interpretations of an utterance, best first. -/
def encodeAlternatives (r : SpeechResult) : Except Failure (List Value) :=
  r.alternatives.mapM encodeAlternative

/-- The payloads of the interpretations in a value that is a speech result. -/
def encodeInterpretations : Value → Except Failure Value
  | .result r => .list <$> encodeAlternatives r
  | v => .error (.noAttribute v.typeName "alternatives")

/-- The part of a payload that all events share. -/
def descriptionFields (e : Event) : Except Failure Fields := do
  let timestamp ← formatReading e.timestamp
  let participant ← participantFields e.participant
  return [(key "event", .text e.kind.text), (key "timestamp", .text timestamp),
    (key "participant", .object participant)]

/-- The part of a payload that only speech has. -/
def speechFields (r : SpeechResult) : Except Failure Fields := do
  let alternatives ← encodeAlternatives r
  let messageId ← require "speech message id" r.messageId
  return [(key "transcript", .list alternatives), (key "language", orEmptyText r.language),
    (key "is_interim", .bool r.isInterim.isTruthy), (key "message_id", .text messageId.toText),
    (key "stability", r.stability)]

def eventFields (e : Event) : Except Failure Fields := do
  let description ← descriptionFields e
  match e.occurrence.result? with
  | none => return description
  | some r => return description ++ (← speechFields r)

def encodeEvent : Value → Except Failure Value
  | .event e => .object <$> eventFields e
  | v => .error (.breach (.notEvent v))

/-- The key and value that mark a live message, and the key of what it carries. -/
def topicKey : Text := key "jitsi-meet-muc-msg-topic"

/-- The topic of live messages. -/
def topic : Value := .str "transcription-result"

/-- The key under which a live message carries an event. -/
def payloadKey : Text := key "payload"

/-- The live message that carries a payload. -/
def wrapLive (payload : Value) : Value :=
  .object [(topicKey, topic), (payloadKey, payload)]

/-- The live message of a value that is an event. -/
def encodeLive (v : Value) : Except Failure Value :=
  wrapLive <$> encodeEvent v

/-- The canonical text of a time that may be null, under its key. -/
def timeFields (name : String) (v : Value) : Except Failure Fields :=
  if v.isNull then .ok [] else do
    return [(key name, .text (← formatInstant v))]

def transcriptFields (t : Transcript) : Except Failure Fields := do
  let room := putIfPresent [] (key "room_name") t.roomName
  let start ← timeFields "start_time" t.startTime
  let stop ← timeFields "end_time" t.endTime
  let initial ← t.initialParticipants.mapM encodeParticipant
  let fields := putIfPresent (room ++ start ++ stop) (key "initial_participants") (.list initial)
  let events ← t.events.mapM encodeEvent
  return putIfPresent fields (key "events") (.list events)

def encodeTranscript : Value → Except Failure Value
  | .transcript t => .object <$> transcriptFields t
  | v => .error (.breach (.notTranscript v))

/-- Checks a payload against the schema of artifacts. -/
def validateArtifact (payload : Value) : Except Failure Unit :=
  (artifactSchema.validate payload).mapError .invalid

/-- The artifact of a value that is a transcript: its payload, if that conforms to the schema. -/
def formatTranscript (v : Value) : Except Failure Value := do
  let payload ← encodeTranscript v
  validateArtifact payload
  return payload

end Proceedings.Wire
