import Proceedings.Proofs.Wire.Instant
import Proceedings.Value.Equality
import Proceedings.Wire.Decode

/-! # What decoding yields

Decoded times are UTC readings and decoded ids are texts, whatever the payload was.
-/

namespace Proceedings

namespace Wire

variable {data : Value}

theorem toUtc_eq_ok {d u : DateTime} {b : Breach} (h : toUtc d b = .ok u) :
    u.HasUtc ∧ u.utc = u := by
  unfold toUtc at h
  split at h
  · cases h
  · next n hn =>
    split at h
    · next v hv =>
      obtain rfl := Except.ok.inj h
      have hinstant := (DateTime.ofInstant_eq_some hv).2
      exact ⟨⟨n, v, hinstant, hv⟩, by simp [DateTime.utc, hinstant, hv]⟩
    · cases h

theorem parseInstant_eq_ok {d : DateTime} (h : parseInstant data = .ok d) :
    d.HasUtc ∧ d.utc = d := by
  unfold parseInstant at h
  split at h
  · unfold parseText at h
    split at h
    · cases h
    · exact toUtc_eq_ok h
  · cases h

theorem parseEvent_time {e : Event} (h : parseEvent data = .ok e) :
    e.timestamp.HasUtc ∧ e.timestamp.utc = e.timestamp := by
  simp only [parseEvent, bind_eq_ok] at h
  obtain ⟨payload, -, name, -, h⟩ := h
  split at h
  · simp only [bind_eq_ok] at h
    obtain ⟨time, -, d, hd, who, -, p, -, o, -, h⟩ := h
    obtain rfl := Except.ok.inj h
    exact parseInstant_eq_ok hd
  · cases h

theorem parseParticipant_id {p : Participant} (h : parseParticipant data = .ok p) :
    ∃ t, p.id = .text t := by
  simp only [parseParticipant, bind_eq_ok] at h
  obtain ⟨id, -, h⟩ := h
  obtain rfl := Except.ok.inj h
  exact ⟨_, rfl⟩

theorem exists_textId_of_parse {participants : List Value} {initial : List Participant}
    (h : participants.mapM parseParticipant = .ok initial) :
    ∀ p ∈ initial, ∃ t, p.id = .text t := by
  intro p hp
  obtain ⟨data, -, hdata⟩ := exists_of_mem_mapM h hp
  exact parseParticipant_id hdata

/-- Decoded participants can be told apart by their ids. -/
theorem hashable_of_parse {participants : List Value} {initial : List Participant}
    (h : participants.mapM parseParticipant = .ok initial) :
    ∀ p ∈ initial, p.id.unhashable? = none := by
  intro p hp
  obtain ⟨t, ht⟩ := exists_textId_of_parse h p hp
  rw [ht]
  rfl

end Wire

end Proceedings
