import Proceedings.Binary64.Shortest
import Proceedings.Text.Quoted
import Proceedings.Value.Basic

/-! # Shown values

The form in which messages show a value, and the text that stands for a value where a text is
asked for: a text stands for itself, and most other values for their shown form.
-/

namespace Proceedings

/-- Numbers without digits, in messages. -/
def shownNames : Binary64.SpecialNames := ⟨"nan", "inf"⟩

def Binary64.quoted (x : Binary64) : String :=
  String.ofList (x.chars shownNames)

/-- The digits of an identifier in groups of 8, 4, 4, 4 and 12. -/
def Uuid.name (u : Uuid) : String :=
  let d := hexDigits 32 u.number.val
  String.ofList (d.take 8 ++ '-' :: (d.drop 8).take 4 ++ '-' :: (d.drop 12).take 4 ++
    '-' :: (d.drop 16).take 4 ++ '-' :: d.drop 20)

def EventKind.quoted (k : EventKind) : String :=
  s!"<EventType.{k.name}: '{k.name}'>"

/-- Shown items in brackets; a tuple of one has a comma behind it. -/
def tupleOf : List String → String
  | [item] => s!"({item},)"
  | items => "(" ++ String.intercalate ", " items ++ ")"

mutual

/-- The shown form of a value. -/
def Value.quoted : Value → String
  | .null => "None"
  | .bool true => "True"
  | .bool false => "False"
  | .int n => n.repr
  | .float x => x.quoted
  | .text t => t.quoted
  | .list items => "[" ++ String.intercalate ", " (Value.quotedItems items) ++ "]"
  | .tuple items => tupleOf (Value.quotedItems items)
  | .object fields => "\x7b" ++ String.intercalate ", " (Value.quotedFields fields) ++ "\x7d"
  | .time d => d.quoted
  | .kind k => k.quoted
  | .uuid u => s!"UUID('{u.name}')"
  | .participant p => p.quoted
  | .alternative a => a.quoted
  | .result r => r.quoted
  | .event e => e.quoted
  | .transcript t => t.quoted

def Value.quotedItems : List Value → List String
  | [] => []
  | v :: rest => v.quoted :: Value.quotedItems rest

/-- The shown forms of the fields of an object. -/
def Value.quotedFields : List (Text × Value) → List String
  | [] => []
  | (k, v) :: rest => (k.quoted ++ ": " ++ v.quoted) :: Value.quotedFields rest

def Participant.quoted : Participant → String
  | ⟨name, id, email, avatarUrl⟩ =>
    "Participant(name=" ++ name.quoted ++ ", id=" ++ id.quoted ++ ", email=" ++ email.quoted ++
      ", avatar_url=" ++ avatarUrl.quoted ++ ")"

def Alternative.quoted : Alternative → String
  | ⟨text, confidence⟩ =>
    "TranscriptionAlternative(text=" ++ text.quoted ++ ", confidence=" ++ confidence.quoted ++ ")"

def SpeechResult.quoted : SpeechResult → String
  | ⟨alternatives, language, isInterim, messageId, stability⟩ =>
    "TranscriptionResult(alternatives=" ++ tupleOf (Value.quotedItems alternatives) ++
      ", language=" ++ language.quoted ++ ", is_interim=" ++ isInterim.quoted ++
      ", message_id=" ++ messageId.quoted ++ ", stability=" ++ stability.quoted ++ ")"

/-- The shown form of the result that an occurrence carries. -/
def Occurrence.quotedResult : Occurrence → String
  | .speech r => r.quoted
  | .join => "None"
  | .leave => "None"
  | .raiseHand => "None"

def Event.quoted : Event → String
  | ⟨timestamp, participant, occurrence⟩ =>
    "TranscriptEvent(event_type=" ++ occurrence.kind.quoted ++ ", timestamp=" ++
      timestamp.quoted ++ ", participant=" ++ participant.quoted ++ ", result=" ++
      occurrence.quotedResult ++ ")"

def Transcript.quoted : Transcript → String
  | ⟨roomName, startTime, endTime, initialParticipants, events⟩ =>
    "Transcript(room_name=" ++ roomName.quoted ++ ", start_time=" ++ startTime.quoted ++
      ", end_time=" ++ endTime.quoted ++ ", initial_participants=" ++
      tupleOf (Value.quotedItems initialParticipants) ++ ", events=" ++
      tupleOf (Value.quotedItems events) ++ ")"

end

/-- The text that stands for a value. -/
def Value.toText : Value → Text
  | .text t => t
  | .time d => (d.isoChars ' ').map CodePoint.scalar
  | .kind k => Text.ofString ("EventType." ++ k.name)
  | .uuid u => Text.ofString u.name
  | v => Text.ofString v.quoted

end Proceedings
