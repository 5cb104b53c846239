import Proceedings.Proofs.Wire.Instant
import Proceedings.Records
import Proceedings.Text.Numeral

/-! # Records with fields of their declared types

Nothing checks the fields of a record when it is made. These predicates say that they are of the
types they should be of, and which of those records have a payload.
-/

namespace Proceedings

namespace Value

def IsOptionalText (v : Value) : Prop := v = .null ∨ ∃ t, v = .text t

def IsOptionalTime (v : Value) : Prop := v = .null ∨ ∃ d, v = .time d

/-- A text, an identifier or null. -/
def IsMessageId (v : Value) : Prop := v = .null ∨ (∃ t, v = .text t) ∨ ∃ u, v = .uuid u

def IsFloat (v : Value) : Prop := ∃ x, v = .float x

/-- A binary number, or an integer with no more digits than a numeral may have. -/
def IsNumber (v : Value) : Prop :=
  v.IsFloat ∨ ∃ n, v = .int n ∧ Binary64.digitCount n.natAbs ≤ Numeral.maxDigits

/-- Neither null nor the empty text. -/
def IsPresent (v : Value) : Prop := v ≠ .null ∧ v ≠ .text []

end Value

variable (number : Value → Prop)

/-- A participant whose fields are texts, where they are not null. -/
structure Participant.IsDeclared (p : Participant) : Prop where
  name : p.name.IsOptionalText
  id : p.id.IsOptionalText
  email : p.email.IsOptionalText
  avatarUrl : p.avatarUrl.IsOptionalText

structure Alternative.IsDeclared (a : Alternative) : Prop where
  text : ∃ t, a.text = .text t
  confidence : number a.confidence

structure SpeechResult.IsDeclared (r : SpeechResult) : Prop where
  alternatives : ∀ v ∈ r.alternatives, ∃ a, v = .alternative a ∧ a.IsDeclared number
  language : r.language.IsOptionalText
  messageId : r.messageId.IsMessageId
  stability : number r.stability

structure Event.IsDeclared (e : Event) : Prop where
  participant : e.participant.IsDeclared
  result : ∀ r, e.occurrence.result? = some r → r.IsDeclared number

structure Transcript.IsDeclared (t : Transcript) : Prop where
  roomName : t.roomName.IsOptionalText
  startTime : t.startTime.IsOptionalTime
  endTime : t.endTime.IsOptionalTime
  initialParticipants : ∀ v ∈ t.initialParticipants, ∃ p, v = .participant p ∧ p.IsDeclared
  events : ∀ v ∈ t.events, ∃ e, v = .event e ∧ e.IsDeclared number

/-- A speech result of interpretations, whatever their fields are. -/
def SpeechResult.IsAssembled (r : SpeechResult) : Prop :=
  ∀ v ∈ r.alternatives, ∃ a, v = .alternative a

def Event.IsAssembled (e : Event) : Prop := ∀ r, e.occurrence.result? = some r → r.IsAssembled

structure Transcript.IsAssembled (t : Transcript) : Prop where
  startTime : t.startTime.IsOptionalTime
  endTime : t.endTime.IsOptionalTime
  initialParticipants : ∀ v ∈ t.initialParticipants, ∃ p, v = .participant p
  events : ∀ v ∈ t.events, ∃ e, v = .event e ∧ e.IsAssembled

section

variable {number : Value → Prop}

theorem SpeechResult.IsDeclared.isAssembled {r : SpeechResult} (h : r.IsDeclared number) :
    r.IsAssembled := by
  intro v hv
  obtain ⟨a, rfl, -⟩ := h.alternatives v hv
  exact ⟨a, rfl⟩

theorem Event.IsDeclared.isAssembled {e : Event} (h : e.IsDeclared number) : e.IsAssembled :=
  fun r hr => (h.result r hr).isAssembled

theorem Transcript.IsDeclared.isAssembled {t : Transcript} (h : t.IsDeclared number) :
    t.IsAssembled := by
  refine ⟨h.startTime, h.endTime, fun v hv => ?_, fun v hv => ?_⟩
  · obtain ⟨p, rfl, -⟩ := h.initialParticipants v hv
    exact ⟨p, rfl⟩
  · obtain ⟨e, rfl, he⟩ := h.events v hv
    exact ⟨e, rfl, he.isAssembled⟩

end

/-- An event that has a payload: its time has a UTC reading, its participant an id and its result,
if there is one, a message id. -/
structure Event.IsEncodable (e : Event) : Prop where
  timestamp : e.timestamp.HasUtc
  participantId : e.participant.id.IsPresent
  messageId : ∀ r, e.occurrence.result? = some r → r.messageId.IsPresent

structure Transcript.IsEncodable (t : Transcript) : Prop where
  startTime : ∀ d, t.startTime = .time d → d.HasUtc
  endTime : ∀ d, t.endTime = .time d → d.HasUtc
  participantId : ∀ p, .participant p ∈ t.initialParticipants → p.id.IsPresent
  events : ∀ e, .event e ∈ t.events → e.IsEncodable

/-- All readings of a transcript that have an offset have a UTC reading. -/
structure Transcript.IsInCalendar (t : Transcript) : Prop where
  startTime : ∀ d, t.startTime = .time d → d.isAware = true → d.HasUtc
  endTime : ∀ d, t.endTime = .time d → d.isAware = true → d.HasUtc
  events : ∀ e, .event e ∈ t.events → e.timestamp.isAware = true → e.timestamp.HasUtc

end Proceedings
