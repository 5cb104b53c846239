import Proceedings.Proofs.Wire.Decoded
import Proceedings.Proofs.Wire.RoundTrip

/-! # Payloads of normal forms

A record and its normal form have the same payload.
-/

namespace Proceedings

open Wire

@[simp] theorem Wire.orEmptyText_orEmptyText (v : Value) :
    orEmptyText (orEmptyText v) = orEmptyText v := by
  unfold orEmptyText
  split <;> simp [Value.str, Value.isNull, *]

theorem Wire.present_nullIfEmpty (name : String) (v : Value) :
    present name v.nullIfEmpty = present name v := by
  unfold Value.nullIfEmpty
  split <;> rfl

theorem Value.IsOptionalText.nullIfEmpty {v : Value} (h : v.IsOptionalText) :
    v.nullIfEmpty.IsOptionalText := by
  rcases h with rfl | ⟨t, rfl⟩
  · exact .inl rfl
  · cases t with
    | nil => exact .inl rfl
    | cons p t => exact .inr ⟨_, rfl⟩

theorem Value.IsOptionalText.orEmptyText {v : Value} (h : v.IsOptionalText) :
    (orEmptyText v).IsOptionalText := by
  rcases h with rfl | ⟨t, rfl⟩ <;> exact .inr ⟨_, rfl⟩

theorem DateTime.HasUtc.canonicalText_utc {d : DateTime} (h : d.HasUtc) :
    d.utc.canonicalText = d.canonicalText := by
  rw [canonicalText, canonicalText, (utc_utc h).2]

theorem Participant.fields_normal (p : Participant) : p.normal.fields = p.fields := by
  simp only [Participant.fields, Participant.normal, orEmptyText_orEmptyText, present_nullIfEmpty]

theorem Participant.IsDeclared.normal {p : Participant} (h : p.IsDeclared) : p.normal.IsDeclared :=
  ⟨h.name.orEmptyText, h.id, h.email.nullIfEmpty, h.avatarUrl.nullIfEmpty⟩

theorem SpeechResult.fields_normal (r : SpeechResult) : r.normal.fields = r.fields := by
  simp only [SpeechResult.fields, SpeechResult.normal, orEmptyText_orEmptyText, Value.isTruthy,
    Value.toText]

theorem SpeechResult.IsDeclared.normal {number : Value → Prop} {r : SpeechResult}
    (h : r.IsDeclared number) : r.normal.IsDeclared number :=
  ⟨h.alternatives, h.language.orEmptyText, .inr (.inl ⟨_, rfl⟩), h.stability⟩

theorem Value.IsMessageId.isPresent_toText {v : Value} (h : v.IsMessageId) (hv : v.IsPresent) :
    (Value.text v.toText).IsPresent := by
  refine ⟨nofun, ?_⟩
  intro hempty
  have hnil : v.toText = [] := Value.text.inj hempty
  rcases h with rfl | ⟨t, rfl⟩ | ⟨u, rfl⟩
  · exact hv.1 rfl
  · exact hv.2 (congrArg Value.text hnil)
  · simp [Value.toText, Text.ofString, Uuid.name] at hnil

namespace Event

variable {e : Event}

theorem result_normal : e.normal.occurrence.result? = e.occurrence.result?.map (·.normal) := by
  cases h : e.occurrence <;> simp [Event.normal, Occurrence.normal, Occurrence.result?, h]

theorem kind_normal : e.normal.kind = e.kind := by
  cases h : e.occurrence <;> simp [Event.normal, Occurrence.normal, Event.kind, Occurrence.kind, h]

theorem fields_normal (h : e.timestamp.HasUtc) : e.normal.fields = e.fields := by
  simp only [Event.fields, Event.description, kind_normal, result_normal]
  have htime : e.normal.timestamp.canonicalText = e.timestamp.canonicalText := h.canonicalText_utc
  have hparticipant : e.normal.participant.fields = e.participant.fields :=
    e.participant.fields_normal
  rw [htime, hparticipant]
  cases e.occurrence.result? with
  | none => rfl
  | some r => simp [r.fields_normal]

theorem IsDeclared.normal {number : Value → Prop} (h : e.IsDeclared number) :
    e.normal.IsDeclared number := by
  refine ⟨h.participant.normal, ?_⟩
  intro r hr
  rw [result_normal, Option.map_eq_some_iff] at hr
  obtain ⟨s, hs, rfl⟩ := hr
  exact (h.result s hs).normal

theorem IsEncodable.normal {number : Value → Prop} (hdeclared : e.IsDeclared number)
    (h : e.IsEncodable) : e.normal.IsEncodable := by
  refine ⟨(utc_utc h.timestamp).1, h.participantId, ?_⟩
  intro r hr
  rw [result_normal, Option.map_eq_some_iff] at hr
  obtain ⟨s, hs, rfl⟩ := hr
  exact (hdeclared.result s hs).messageId.isPresent_toText (h.messageId s hs)

/-- An event and its normal form are encoded alike. -/
theorem encodeEvent_normal {number : Value → Prop} (hdeclared : e.IsDeclared number)
    (h : e.IsEncodable) : encodeEvent (.event e.normal) = .ok (.object e.fields) := by
  rw [← fields_normal h.timestamp]
  exact (encodeEvent_eq_ok hdeclared.normal).mpr ⟨h.normal hdeclared, rfl⟩

end Event

end Proceedings
