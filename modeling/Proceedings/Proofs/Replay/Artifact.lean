import Proceedings.Proofs.Recorder.Chronology
import Proceedings.Proofs.Replay.Loading
import Proceedings.Proofs.Replay.Record
import Proceedings.Proofs.Wire.Artifact

/-! # Artifacts of replays

What was loaded from logs may have no artifact, since optional fields are of whatever type they
were. That is told in a message, and an artifact that there is has a JSON text.
-/

namespace Proceedings.Replay

open CommandLine Wire Recorder

variable {room : Value} {events : List Event} {initial : List Participant}

theorem isOptionalTime_ofOption (mark : Option DateTime) :
    (Value.ofOption (mark.map .time)).IsOptionalTime := by
  cases mark with
  | none => exact .inl rfl
  | some d => exact .inr ⟨d, rfl⟩

theorem eq_some_of_ofOption {mark : Option DateTime} {d : DateTime}
    (h : Value.ofOption (mark.map .time) = .time d) : mark = some d := by
  cases mark with
  | none => cases h
  | some e => exact congrArg some (Value.time.inj h)

variable (hroom : room.IsJson) (hevents : ∀ e ∈ events, e.HoldsJson ∧ e.timestamp.HasUtc)
  (hinitial : ∀ p ∈ initial, p.HoldsJson ∧ p.id.unhashable? = none)

include hevents hinitial

theorem freeze_record_isInCalendar : (record room events initial).freeze.IsInCalendar := by
  have haware : ∀ e ∈ events, e.timestamp.isAware = true := fun e he => (hevents e he).2.isAware
  have hbounds {d} := record_bounds (d := d) room haware fun p hp => (hinitial p hp).2
  obtain ⟨⟨start, stop, hrecord⟩, -⟩ := record_spec room haware fun p hp => (hinitial p hp).2
  refine ⟨?_, ?_, ?_⟩
  · intro d hd _
    obtain ⟨e, he, rfl⟩ := hbounds (.inl (eq_some_of_ofOption hd))
    exact (hevents e he).2
  · intro d hd _
    obtain ⟨e, he, rfl⟩ := hbounds (.inr (eq_some_of_ofOption hd))
    exact (hevents e he).2
  · intro e he _
    rw [hrecord, freeze] at he
    obtain ⟨e', he', heq⟩ := List.mem_map.mp he
    obtain rfl := Value.event.inj heq
    exact (hevents e' ((chronological_perm _).mem_iff.mp he')).2

include hroom

theorem freeze_record_holdsJson : (record room events initial).freeze.HoldsJson := by
  have haware : ∀ e ∈ events, e.timestamp.isAware = true := fun e he => (hevents e he).2.isAware
  obtain ⟨⟨start, stop, hrecord⟩, -⟩ := record_spec room haware fun p hp => (hinitial p hp).2
  rw [hrecord]
  refine ⟨hroom, isOptionalTime_ofOption start, isOptionalTime_ofOption stop, ?_, ?_⟩
  · intro v hv
    obtain ⟨p, hp, rfl⟩ := List.mem_map.mp hv
    rcases mem_foldl_meet hp with hp | hp
    · cases hp
    · exact ⟨p, rfl, (hinitial p hp).1⟩
  · intro v hv
    obtain ⟨e, he, rfl⟩ := List.mem_map.mp hv
    exact ⟨e, rfl, (hevents e ((chronological_perm _).mem_iff.mp he)).1⟩

theorem isReported_formatTranscript {f : Failure}
    (h : formatTranscript (.transcript (record room events initial).freeze) = .error f) :
    isReported f = true := by
  have hjson := freeze_record_holdsJson hroom hevents hinitial
  rcases bind_eq_error.mp h with h | ⟨payload, -, h⟩
  · by_contra hf
    have hescapes := escapes_of_not_isReported h (Bool.eq_false_iff.mpr hf)
    exact (escapes_transcriptFields hjson (escapes_map.mp hescapes)).2
      (freeze_record_isInCalendar hevents hinitial)
  · rcases bind_eq_error.mp h with h | ⟨_, -, h⟩
    · obtain ⟨e, -, rfl⟩ := mapError_eq_error.mp h
      rfl
    · cases h

theorem exists_serialize_formatTranscript {payload : Value}
    (h : formatTranscript (.transcript (record room events initial).freeze) = .ok payload) :
    ∃ text, serialize payload = .ok text :=
  (exists_serialize_artifact_iff h).mpr
    (freeze_record_holdsJson hroom hevents hinitial).numbersAre

end Proceedings.Replay
