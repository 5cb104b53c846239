import Proceedings.Proofs.Wire.Writable

/-! # Artifacts

A transcript whose fields are of their declared types has an artifact unless a time has no UTC
reading or an id is missing. The schema refuses none, and each has a JSON text.
-/

namespace Proceedings

open Wire

theorem Value.IsNumber.admits {v : Value} (h : v.IsNumber) : numberSchema.admits v = true := by
  rw [admits_number]
  rcases h with ⟨x, hx⟩ | ⟨n, hn, -⟩
  · exact .inr ⟨x, hx⟩
  · exact .inl ⟨n, hn⟩

namespace Wire

variable {t : Transcript} (ht : t.IsDeclared Value.IsNumber)

include ht

theorem validateArtifact_fields (henc : t.IsEncodable) :
    validateArtifact (.object t.fields) = .ok () := by
  have hadmits := admits_artifact ht (fun _ => Value.IsNumber.admits) henc
  rw [validateArtifact, Schema.validate_eq_ok.mpr hadmits]
  rfl

theorem formatTranscript_eq_encodeTranscript :
    formatTranscript (.transcript t) = encodeTranscript (.transcript t) := by
  cases h : encodeTranscript (.transcript t) with
  | error f => rw [formatTranscript, h, error_bind]
  | ok payload =>
    obtain ⟨henc, rfl⟩ := (encodeTranscript_eq_ok ht).mp h
    rw [formatTranscript, h, ok_bind, validateArtifact_fields ht henc]
    rfl

/-- A transcript has an artifact if and only if its times have UTC readings and no id is missing.
The artifact is its payload, which the schema never refuses and which has a JSON text; what keeps a
transcript from having one is a breach of the contract, or a time outside the calendar. -/
theorem formatTranscript_declared :
    ((∃ payload, formatTranscript (.transcript t) = .ok payload) ↔ t.IsEncodable) ∧
    (∀ payload, formatTranscript (.transcript t) = .ok payload →
      encodeTranscript (.transcript t) = .ok payload ∧ ∃ text, serialize payload = .ok text) ∧
    (∀ payload, encodeTranscript (.transcript t) = .ok payload →
      validateArtifact payload = .ok ()) ∧
    ∀ f, formatTranscript (.transcript t) = .error f →
      f.IsBreach ∨ f = .dateRange ∧ ¬ t.IsInCalendar := by
  have heq := formatTranscript_eq_encodeTranscript ht
  have hjson := ht.holdsJson fun _ h => h
  refine ⟨?_, fun payload h => ⟨heq ▸ h, ?_⟩, fun payload h => ?_, fun f h => ?_⟩
  · rw [heq]
    constructor
    · rintro ⟨payload, h⟩
      exact ((encodeTranscript_eq_ok ht).mp h).1
    · intro henc
      exact ⟨_, (encodeTranscript_eq_ok ht).mpr ⟨henc, rfl⟩⟩
  · exact (exists_serialize_artifact_iff h).mpr hjson.numbersAre
  · obtain ⟨henc, rfl⟩ := (encodeTranscript_eq_ok ht).mp h
    exact validateArtifact_fields ht henc
  · by_cases hbreach : f.IsBreach
    · exact .inl hbreach
    · rw [heq] at h
      exact .inr (escapes_transcriptFields hjson (escapes_map.mp ⟨h, hbreach⟩))

omit ht

def ruling : Event :=
  ⟨⟨⟨63870000000000000, by decide⟩, some .utc, none⟩, ⟨.null, .str "judge", .null, .null⟩,
    .speech ⟨[.alternative ⟨.str "granted", .int 1⟩], .null, .bool false, .str "m1", .float .zero⟩⟩

/-- A transcript of one remark by someone who was not there at the start. -/
def hearing : Transcript := ⟨.null, .null, .null, [], [.event ruling]⟩

theorem hearing_declared : hearing.IsDeclared Value.IsNumber := by
  refine ⟨.inl rfl, .inl rfl, .inl rfl, by simp [hearing], fun v hv => ?_⟩
  refine ⟨_, List.mem_singleton.mp hv, ?_, fun r hr => ?_⟩
  · exact ⟨.inl rfl, .inr ⟨_, rfl⟩, .inl rfl, .inl rfl⟩
  obtain rfl := Option.some.inj hr
  refine ⟨fun v hv => ?_, .inl rfl, .inr (.inl ⟨_, rfl⟩), .inl ⟨_, rfl⟩⟩
  exact ⟨_, List.mem_singleton.mp hv, ⟨_, rfl⟩, .inr ⟨1, rfl, by decide⟩⟩

theorem isPresent_str {s : String} (h : s ≠ "") : (Value.str s).IsPresent := by
  refine ⟨nofun, fun hs => h ?_⟩
  exact Text.ofString_inj.mp (Value.text.inj hs)

theorem hearing_encodable : hearing.IsEncodable := by
  refine ⟨fun d hd => ?_, fun d hd => ?_, fun p hp => ?_, fun e he => ?_⟩
  · cases hd
  · cases hd
  · cases hp
  · obtain rfl := Value.event.inj (List.mem_singleton.mp he)
    refine ⟨DateTime.hasUtc_iff.mpr ⟨_, rfl, by decide⟩, isPresent_str (by decide), fun r hr => ?_⟩
    obtain rfl := Option.some.inj hr
    exact isPresent_str (by decide)

theorem formatTranscript_declared_hearing :
    hearing.IsDeclared Value.IsNumber ∧ ∃ payload text,
      formatTranscript (.transcript hearing) = .ok payload ∧
      encodeTranscript (.transcript hearing) = .ok payload ∧ serialize payload = .ok text := by
  obtain ⟨hexists, hpayload, -, -⟩ := formatTranscript_declared hearing_declared
  obtain ⟨payload, h⟩ := hexists.mpr hearing_encodable
  obtain ⟨hencode, text, htext⟩ := hpayload payload h
  exact ⟨hearing_declared, payload, text, h, hencode, htext⟩

end Wire

end Proceedings
