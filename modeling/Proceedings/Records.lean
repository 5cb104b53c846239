import Proceedings.Failure

/-! # Making records

Records are made from whatever values callers hand in. Only sequences are taken apart, and only the
parts of an event are checked: its kind, its time, its participant, and that speech carries a result
while nothing else does.
-/

namespace Proceedings

/-- The items that a value yields one after the other: code points of a text, keys of an object. -/
def Value.iterate : Value → Except Failure (List Value)
  | .list items => .ok items
  | .tuple items => .ok items
  | .text t => .ok (t.map fun p => .text [p])
  | .kind k => .ok (k.text.map fun p => .text [p])
  | .object fields => .ok (fields.map fun f => .text f.1)
  | v => .error (.notIterable v.typeName)

/-- The items of a value that may be absent. -/
def Value.itemsOrNone (v : Value) : Except Failure (List Value) :=
  if v.isTruthy then v.iterate else .ok []

def SpeechResult.make (alternatives language isInterim messageId stability : Value) :
    Except Failure SpeechResult := do
  return ⟨← alternatives.itemsOrNone, language, isInterim, messageId, stability⟩

def Transcript.make (roomName startTime endTime initialParticipants events : Value) :
    Except Failure Transcript := do
  let initial ← initialParticipants.itemsOrNone
  return ⟨roomName, startTime, endTime, initial, ← events.itemsOrNone⟩

/-- The occurrence of a kind with the result that was handed in. -/
def Occurrence.make (k : EventKind) (result : Value) : Except Failure Occurrence :=
  match k, result with
  | .speech, .result r => .ok (.speech r)
  | .speech, _ => .error (.breach .noResult)
  | .join, .null => .ok .join
  | .leave, .null => .ok .leave
  | .raiseHand, .null => .ok .raiseHand
  | k, _ => .error (.breach (.strayResult k))

def Event.ofKind (k : EventKind) (timestamp participant result : Value) : Except Failure Event :=
  match timestamp, participant with
  | .time d, .participant p => do
    let o ← Occurrence.make k result
    return ⟨d, p, o⟩
  | .time _, v => .error (.breach (.eventParticipant k v))
  | v, _ => .error (.breach (.eventTime k v))

def Event.make (kind timestamp participant result : Value) : Except Failure Event :=
  match kind with
  | .kind k => Event.ofKind k timestamp participant result
  | v => .error (.breach (.notKind v))

def EventKind.ofValue? (v : Value) : Option EventKind :=
  v.text?.bind EventKind.ofText?

/-- The text of an interpretation; a speech result stands for its best one. -/
def Value.spokenText : Value → Except Failure Value
  | .alternative a => .ok a.text
  | .result ⟨[], _, _, _, _⟩ => .ok (.str "")
  | .result ⟨.null :: _, _, _, _, _⟩ => .ok (.str "")
  | .result ⟨best :: _, _, _, _, _⟩ => best.spokenText
  | v => .error (.noAttribute v.typeName "text")

/-- The confidence of an interpretation. -/
def Value.confidence : Value → Except Failure Value
  | .alternative a => .ok a.confidence
  | v => .error (.noAttribute v.typeName "confidence")

def Transcript.isEmpty (t : Transcript) : Bool :=
  !t.roomName.isTruthy && t.startTime.isNull && t.endTime.isNull &&
    t.initialParticipants.isEmpty && t.events.isEmpty

end Proceedings
