import Proceedings.Proofs.Wire.Stable

/-! # Artifacts as JSON

The text of an artifact is JSON in all but the names of special numbers. Neither decoding nor the
schema keeps those out of the confidences and stabilities of speech, so the text is JSON proper
exactly if each of these that is a binary number is finite.
-/

namespace Proceedings

open Wire

section Numbers

/-- A number that has a decimal text: an integer, or a finite binary number. -/
def Value.IsFiniteNumber (v : Value) : Prop :=
  (∃ n, v = .int n) ∨ ∃ x, v = .float x ∧ x.isFinite = true

theorem Value.IsNumber.isWritable_finite_iff {v : Value} (h : v.IsNumber) :
    v.IsWritable (·.isFinite = true) ↔ v.IsFiniteNumber := by
  rcases h with ⟨x, rfl⟩ | ⟨n, rfl, hdigits⟩
  · rw [isWritable_float]
    simp [IsFiniteNumber]
  · exact iff_of_true (.int hdigits) (.inl ⟨n, rfl⟩)

end Numbers

section Artifacts

variable {t : Transcript} {payload : Value}

/-- The artifact of a transcript has a text exactly if no number in it has more digits than a
numeral may have. Its text is JSON but for the names of special numbers, and JSON proper exactly if
the numbers of the transcript are finite. -/
theorem serialize_isProper_iff (h : formatTranscript (.transcript t) = .ok payload) :
    ((∃ text, serialize payload = .ok text) ↔ t.NumbersAre Value.IsNumber) ∧
    ∀ text, serialize payload = .ok text → Json.IsTextWith Json.allNames text ∧
      (Json.IsProper text ↔ t.NumbersAre Value.IsFiniteNumber) := by
  refine ⟨exists_serialize_artifact_iff h, fun text htext => ?_⟩
  have hnumber := (exists_serialize_artifact_iff h).mp ⟨text, htext⟩
  have hwrite := mapError_eq_ok.mp htext
  obtain ⟨hshape, hproper⟩ := Json.isProper_write_iff (Json.isWritable_of_write hwrite) hwrite
  rw [isWritable_artifact_iff h] at hproper
  refine ⟨hshape, hproper.trans ?_⟩
  constructor
  · exact hnumber.imp₂ fun _ h => h.isWritable_finite_iff.mp
  · exact hnumber.imp₂ fun _ h => h.isWritable_finite_iff.mpr

end Artifacts

section Examples

open Json

theorem serialize_isProper_iff_hearing :
    ∃ payload text, formatTranscript (.transcript hearing) = .ok payload ∧
      serialize payload = .ok text ∧ IsProper text := by
  have hformat : formatTranscript (.transcript hearing) = .ok (.object hearing.fields) := by
    rw [formatTranscript_eq_encodeTranscript hearing_declared]
    exact (encodeTranscript_eq_ok hearing_declared).mpr ⟨hearing_encodable, rfl⟩
  have hresult {e : Event} {r : SpeechResult} (he : .event e ∈ hearing.events)
      (hr : e.occurrence.result? = some r) : r.stability = .float .zero ∧
        ∀ a, .alternative a ∈ r.alternatives → a.confidence = .int 1 := by
    obtain rfl := Value.event.inj (List.mem_singleton.mp he)
    obtain rfl := Option.some.inj hr
    refine ⟨rfl, fun a ha => ?_⟩
    obtain rfl := Value.alternative.inj (List.mem_singleton.mp ha)
    rfl
  have hfinite : hearing.NumbersAre Value.IsFiniteNumber := by
    intro e r he hr
    obtain ⟨hstability, hconfidence⟩ := hresult he hr
    exact ⟨.inr ⟨_, hstability, rfl⟩, fun a ha => .inl ⟨1, hconfidence a ha⟩⟩
  have hnumber : hearing.NumbersAre Value.IsNumber := by
    intro e r he hr
    obtain ⟨hstability, hconfidence⟩ := hresult he hr
    exact ⟨.inl ⟨_, hstability⟩, fun a ha => .inr ⟨1, hconfidence a ha, by decide⟩⟩
  obtain ⟨hexists, hproper⟩ := serialize_isProper_iff hformat
  obtain ⟨text, htext⟩ := hexists.mpr hnumber
  exact ⟨_, text, hformat, htext, (hproper text htext).2.mpr hfinite⟩

/-- A log of an outcry with a stability beyond the finite numbers. -/
def outcryText : Text := Text.ofString
  "\x7b\"events\":[\x7b\"event\":\"SPEECH\",\"timestamp\":\"2024-03-01T09:00:00Z\",\"participant\":\x7b\"id\":\"p1\",\"name\":\"A\"\x7d,\"transcript\":[],\"message_id\":\"m1\",\"stability\":1e400\x7d]\x7d"

def outcryFields : Fields :=
  [(key "event", .str "SPEECH"), (key "timestamp", .str "2024-03-01T09:00:00Z"),
    (key "participant", .object [(key "id", .str "p1"), (key "name", .str "A")]),
    (key "transcript", .list []), (key "message_id", .str "m1"),
    (key "stability", .float (.infinite false))]

theorem spellsNumber_beyond : SpellsNumber (.float (.infinite false)) (Text.ofString "1e400") := by
  have hdigits : IsDigits (Text.ofString "1") := ⟨by decide, by decide⟩
  have hpower : IsDigits (Text.ofString "400") := ⟨by decide, by decide⟩
  have hnumber : SpellsNumber (.float (.ofDecimal false _ _)) _ :=
    .float (.inr ⟨hdigits, by decide⟩) .absent (.power (.inl rfl) (.inl rfl) hpower) (.inr nofun)
  exact hnumber

theorem read_outcry :
    read outcryText = .ok (.object [(key "events", .list [.object outcryFields])]) := by
  have hentry {v : Value} {w : Text} (name : String) (h : Spells words (.value v) w) :
      Spells words (.entry (key name) v) (Json.quoted (key name) ++ wireLayout.colon ++ w) :=
    spells_entry_written h (key name)
  have hwritten {v : Value} {w : Text} (name : String) (hv : v.IsSpellable words)
      (hw : write wireLayout 0 v = .ok w) :
      Spells words (.entry (key name) v) (Json.quoted (key name) ++ wireLayout.colon ++ w) :=
    hentry name (spells_write (by simp [properWords, words]) hv hw)
  have hspeaker : (Value.object [(key "id", .str "p1"), (key "name", .str "A")]).IsSpellable
      words := .object (by simp) (by simp [Value.str, Value.IsSpellable.text])
  have hentries : List.Forall₂ (fun f t => Spells words (.entry f.1 f.2) t) outcryFields _ :=
    .cons (hwritten "event" (.text _) rfl) <| .cons (hwritten "timestamp" (.text _) rfl) <|
      .cons (hwritten "participant" hspeaker rfl) <|
      .cons (hwritten "transcript" (.list (List.forall_mem_nil _)) rfl) <|
      .cons (hwritten "message_id" (.text _) rfl) <|
      .cons (hentry "stability" (.number spellsNumber_beyond)) .nil
  have hfields := spells_fields_intercalate [] spaces_nil spaces_nil hentries
    (by simp [outcryFields]) (by simp [outcryFields])
  have hevents := Spells.array spaces_nil (.lastItem (.object spaces_nil hfields) spaces_nil)
  have hdocument := Spells.object spaces_nil (.lastField (hentry "events" hevents) spaces_nil)
  refine read_eq_ok_iff.mpr ⟨[], outcryText, [], spaces_nil, ?_, spaces_nil, by simp⟩
  convert hdocument using 1
  · rfl
  · decide +kernel

def outcry : Event :=
  ⟨morning, ⟨.str "A", .str "p1", .null, .null⟩,
    .speech ⟨[], .str "", .bool false, .str "m1", .float (.infinite false)⟩⟩

def outcries : Transcript := ⟨.null, .null, .null, [], [.event outcry]⟩

theorem parse_outcry :
    parseTranscript (.object [(key "events", .list [.object outcryFields])]) = .ok outcries := by
  have hspeaker : outcry.participant.IsReadFrom [(key "id", .str "p1"), (key "name", .str "A")] :=
    ⟨⟨_, rfl, nofun, rfl⟩, rfl, rfl, rfl⟩
  refine Input.parseTranscript_ok_iff.mpr ⟨_, rfl, rfl, .absent rfl, .absent rfl,
    ⟨[], .null, .nil⟩, [.object outcryFields], .list _, .cons ?_ .nil⟩
  refine ⟨outcryFields, outcry, .bare rfl, rfl, ⟨_, rfl, rfl⟩, ⟨_, rfl, parse_morning⟩,
    ⟨_, rfl, _, rfl, hspeaker⟩, fun r hr => ?_⟩
  obtain rfl := Option.some.inj hr
  exact ⟨⟨_, rfl, [], rfl, .nil⟩, rfl, rfl, ⟨_, rfl, nofun, rfl⟩, .float _⟩

/-- A text of JSON proper has an artifact whose text is not. -/
theorem not_isProper_outcry :
    IsProper outcryText ∧ ∃ data t payload text, read outcryText = .ok data ∧
      parseTranscript data = .ok t ∧ formatTranscript (.transcript t) = .ok payload ∧
      serialize payload = .ok text ∧ ¬ IsProper text := by
  have hquiet : IsQuiet outcryText := by decide +kernel
  have hformat : formatTranscript (.transcript outcries) = .ok (.object outcries.fields) := by
    cbv
  have hnumber : outcries.NumbersAre Value.IsNumber := by
    intro e r he hr
    obtain rfl := Value.event.inj (List.mem_singleton.mp he)
    obtain rfl := Option.some.inj hr
    exact ⟨.inl ⟨_, rfl⟩, fun _ h => absurd h List.not_mem_nil⟩
  obtain ⟨text, htext⟩ := (exists_serialize_artifact_iff hformat).mpr hnumber
  refine ⟨(isProper_iff_of_read read_outcry).mpr hquiet, _, outcries, _, text, read_outcry,
    parse_outcry, hformat, htext, fun hproper => ?_⟩
  have hwrite := mapError_eq_ok.mp htext
  have hfinite := (isProper_write_iff (isWritable_of_write hwrite) hwrite).2.mp hproper
  have hnumbers := (isWritable_artifact_iff hformat).mp hfinite
  have hstability := (hnumbers outcry _ List.mem_cons_self rfl).stability
  cases Value.isWritable_float.mp hstability

end Examples

end Proceedings
