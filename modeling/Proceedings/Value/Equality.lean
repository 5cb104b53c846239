import Proceedings.Value.Basic

/-! # Equality of values

Numbers are equal by value whatever their type, a truth value counts as 0 or 1, and the kind of an
event equals its name. Readings with an offset are equal by instant. Objects are equal whatever the
order of their keys.

A value can be told apart from others quickly, by a hash, unless there is a list or an object in
it.
-/

namespace Proceedings

mutual

def Value.equals : Value → Value → Bool
  | .null, w => w.isNull
  | .bool b, w => equalsInt (if b then 1 else 0) w
  | .int n, w => equalsInt n w
  | .float x, w =>
    match w with
    | .bool b => x.equalsInt (if b then 1 else 0)
    | .int n => x.equalsInt n
    | .float y => x.equals y
    | _ => false
  | .text t, w => w.text? == some t
  | .kind k, w => w.text? == some k.text
  | .list items, w =>
    match w with
    | .list others => Value.equalItems items others
    | _ => false
  | .tuple items, w =>
    match w with
    | .tuple others => Value.equalItems items others
    | _ => false
  | .object fields, w =>
    match w with
    | .object others => fields.length == others.length && Value.equalFields fields others
    | _ => false
  | .time d, w =>
    match w with
    | .time e => d.equals e
    | _ => false
  | .uuid u, w =>
    match w with
    | .uuid v => u == v
    | _ => false
  | .participant p, w =>
    match w with
    | .participant q => p.equals q
    | _ => false
  | .alternative a, w =>
    match w with
    | .alternative b => a.equals b
    | _ => false
  | .result r, w =>
    match w with
    | .result s => r.equals s
    | _ => false
  | .event e, w =>
    match w with
    | .event f => e.equals f
    | _ => false
  | .transcript t, w =>
    match w with
    | .transcript u => t.equals u
    | _ => false
where
  /-- Whether a value is the given number. -/
  equalsInt (n : Int) : Value → Bool
    | .bool b => n == if b then 1 else 0
    | .int m => n == m
    | .float x => x.equalsInt n
    | _ => false

/-- Whether two sequences hold equal values in the same order. -/
def Value.equalItems : List Value → List Value → Bool
  | [], others => others.isEmpty
  | v :: rest, others =>
    match others with
    | [] => false
    | w :: more => v.equals w && Value.equalItems rest more

def Value.equalFields : List (Text × Value) → List (Text × Value) → Bool
  | [], _ => true
  | (k, v) :: rest, others =>
    (match Fields.get? others k with
      | some w => v.equals w
      | none => false) && Value.equalFields rest others

def Participant.equals : Participant → Participant → Bool
  | ⟨name, id, email, avatarUrl⟩, q =>
    name.equals q.name && id.equals q.id && email.equals q.email && avatarUrl.equals q.avatarUrl

def Alternative.equals : Alternative → Alternative → Bool
  | ⟨text, confidence⟩, b => text.equals b.text && confidence.equals b.confidence

def SpeechResult.equals : SpeechResult → SpeechResult → Bool
  | ⟨alternatives, language, isInterim, messageId, stability⟩, s =>
    Value.equalItems alternatives s.alternatives && language.equals s.language &&
      isInterim.equals s.isInterim && messageId.equals s.messageId && stability.equals s.stability

def Occurrence.equals : Occurrence → Occurrence → Bool
  | .speech r, o =>
    match o with
    | .speech s => r.equals s
    | _ => false
  | .join, o => o.kind == .join
  | .leave, o => o.kind == .leave
  | .raiseHand, o => o.kind == .raiseHand

def Event.equals : Event → Event → Bool
  | ⟨timestamp, participant, occurrence⟩, f =>
    timestamp.equals f.timestamp && participant.equals f.participant &&
      occurrence.equals f.occurrence

def Transcript.equals : Transcript → Transcript → Bool
  | ⟨roomName, startTime, endTime, initialParticipants, events⟩, u =>
    roomName.equals u.roomName && startTime.equals u.startTime && endTime.equals u.endTime &&
      Value.equalItems initialParticipants u.initialParticipants &&
      Value.equalItems events u.events

end

mutual

/-- The first list or object in a value, by the name of its type: it keeps the value from being
hashed. -/
def Value.unhashable? : Value → Option String
  | .list _ => some "list"
  | .object _ => some "dict"
  | .tuple items => Value.unhashableItem? items
  | .participant p => p.unhashable?
  | .alternative a => a.unhashable?
  | .result r => r.unhashable?
  | .event e => e.unhashable?
  | .transcript t => t.unhashable?
  | _ => none

/-- The first list or object in a sequence of values. -/
def Value.unhashableItem? : List Value → Option String
  | [] => none
  | v :: rest => v.unhashable?.or (Value.unhashableItem? rest)

def Participant.unhashable? : Participant → Option String
  | ⟨name, id, email, avatarUrl⟩ =>
    name.unhashable?.or (id.unhashable?.or (email.unhashable?.or avatarUrl.unhashable?))

def Alternative.unhashable? : Alternative → Option String
  | ⟨text, confidence⟩ => text.unhashable?.or confidence.unhashable?

def SpeechResult.unhashable? : SpeechResult → Option String
  | ⟨alternatives, language, isInterim, messageId, stability⟩ =>
    (Value.unhashableItem? alternatives).or (language.unhashable?.or (isInterim.unhashable?.or
      (messageId.unhashable?.or stability.unhashable?)))

def Occurrence.unhashable? : Occurrence → Option String
  | .speech r => r.unhashable?
  | .join => none
  | .leave => none
  | .raiseHand => none

def Event.unhashable? : Event → Option String
  | ⟨_, participant, occurrence⟩ => participant.unhashable?.or occurrence.unhashable?

def Transcript.unhashable? : Transcript → Option String
  | ⟨roomName, startTime, endTime, initialParticipants, events⟩ =>
    roomName.unhashable?.or (startTime.unhashable?.or (endTime.unhashable?.or
      ((Value.unhashableItem? initialParticipants).or (Value.unhashableItem? events))))

end

end Proceedings
