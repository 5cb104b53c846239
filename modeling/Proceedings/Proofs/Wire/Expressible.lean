import Proceedings.Proofs.Json.Content
import Proceedings.Proofs.Wire.Encode
import Proceedings.Wire.Decode

/-! # Records of JSON values

The fields of a decoded record hold parts of its payload, of whatever type, and its confidences and
stabilities are numbers. Such a record may have no payload that conforms to the schema, but that is
a breach of the contract unless a time has no UTC reading.
-/

namespace Proceedings

open Wire

/-- A participant whose fields are JSON. -/
structure Participant.HoldsJson (p : Participant) : Prop where
  name : p.name.IsJson
  id : p.id.IsJson
  email : p.email.IsJson
  avatarUrl : p.avatarUrl.IsJson

structure Alternative.HoldsJson (a : Alternative) : Prop where
  text : a.text.IsJson
  confidence : a.confidence.IsNumber

structure SpeechResult.HoldsJson (r : SpeechResult) : Prop where
  alternatives : ∀ v ∈ r.alternatives, ∃ a, v = .alternative a ∧ a.HoldsJson
  language : r.language.IsJson
  stability : r.stability.IsNumber

structure Event.HoldsJson (e : Event) : Prop where
  participant : e.participant.HoldsJson
  result : ∀ r, e.occurrence.result? = some r → r.HoldsJson

structure Transcript.HoldsJson (t : Transcript) : Prop where
  roomName : t.roomName.IsJson
  startTime : t.startTime.IsOptionalTime
  endTime : t.endTime.IsOptionalTime
  initialParticipants : ∀ v ∈ t.initialParticipants, ∃ p, v = .participant p ∧ p.HoldsJson
  events : ∀ v ∈ t.events, ∃ e, v = .event e ∧ e.HoldsJson

theorem SpeechResult.HoldsJson.isAssembled {r : SpeechResult} (h : r.HoldsJson) :
    r.IsAssembled := by
  intro v hv
  obtain ⟨a, rfl, -⟩ := h.alternatives v hv
  exact ⟨a, rfl⟩

theorem Transcript.HoldsJson.isAssembled {t : Transcript} (h : t.HoldsJson) : t.IsAssembled := by
  refine ⟨h.startTime, h.endTime, fun v hv => ?_, fun v hv => ?_⟩
  · obtain ⟨p, rfl, -⟩ := h.initialParticipants v hv
    exact ⟨p, rfl⟩
  · obtain ⟨e, rfl, he⟩ := h.events v hv
    exact ⟨e, rfl, fun r hr => (he.result r hr).isAssembled⟩

section Declared

variable {number : Value → Prop}

theorem Value.IsOptionalText.isJson {v : Value} (h : v.IsOptionalText) : v.IsJson := by
  rcases h with rfl | ⟨t, rfl⟩
  · exact .null
  · exact .text t

theorem Participant.IsDeclared.holdsJson {p : Participant} (h : p.IsDeclared) : p.HoldsJson :=
  ⟨h.name.isJson, h.id.isJson, h.email.isJson, h.avatarUrl.isJson⟩

variable (hnumber : ∀ v, number v → v.IsNumber)

include hnumber

theorem SpeechResult.IsDeclared.holdsJson {r : SpeechResult} (h : r.IsDeclared number) :
    r.HoldsJson := by
  refine ⟨?_, h.language.isJson, hnumber _ h.stability⟩
  intro v hv
  obtain ⟨a, rfl, ha⟩ := h.alternatives v hv
  obtain ⟨t, ht⟩ := ha.text
  exact ⟨a, rfl, ht ▸ .text t, hnumber _ ha.confidence⟩

theorem Event.IsDeclared.holdsJson {e : Event} (h : e.IsDeclared number) : e.HoldsJson :=
  ⟨h.participant.holdsJson, fun r hr => (h.result r hr).holdsJson hnumber⟩

theorem Transcript.IsDeclared.holdsJson {t : Transcript} (h : t.IsDeclared number) :
    t.HoldsJson := by
  refine ⟨h.roomName.isJson, h.startTime, h.endTime, ?_, ?_⟩
  · intro v hv
    obtain ⟨p, rfl, hp⟩ := h.initialParticipants v hv
    exact ⟨p, rfl, hp.holdsJson⟩
  · intro v hv
    obtain ⟨e, rfl, he⟩ := h.events v hv
    exact ⟨e, rfl, he.holdsJson hnumber⟩

end Declared

namespace Wire

variable {data v w : Value} {what name : String}

section Decoding

theorem isJson_get? {fields : Fields} (h : (Value.object fields).IsJson)
    (hget : fields.get? (key name) = some v) : v.IsJson := by
  cases h with
  | object h =>
    obtain ⟨f, hf, rfl⟩ := Fields.exists_of_get? hget
    exact h f hf

theorem isJson_item {items : List Value} (h : (Value.list items).IsJson) (hv : v ∈ items) :
    v.IsJson := by
  cases h with
  | list h => exact h v hv

theorem isJson_optional (h : data.IsJson) (name : String) : (optional data name).IsJson := by
  unfold optional
  split
  · next fields =>
    cases hget : Fields.get? fields (key name) with
    | none => exact .null
    | some v => exact isJson_get? h hget
  · exact .null

theorem field_eq_ok (h : field what data name = .ok v) : optional data name = v := by
  unfold field at h
  split at h
  · split at h
    · cases h
    · cases h
    · next w _ hget =>
      obtain rfl := Except.ok.inj h
      rw [optional, hget]
      rfl
  · cases h

theorem isJson_field (h : data.IsJson) (hv : field what data name = .ok v) : v.IsJson :=
  field_eq_ok hv ▸ isJson_optional h name

theorem isJson_orElse (hv : v.IsJson) (hw : w.IsJson) : (v.orElse w).IsJson := by
  unfold Value.orElse
  split
  · exact hv
  · exact hw

theorem isNumber_number (h : number what v = .ok w) : w.IsNumber := by
  unfold number at h
  split at h
  · obtain rfl := Except.ok.inj h
    exact .inl ⟨_, rfl⟩
  · split at h
    · obtain rfl := Except.ok.inj h
      exact .inl ⟨_, rfl⟩
    · cases h
  · obtain rfl := Except.ok.inj h
    exact .inl ⟨_, rfl⟩
  · cases h

theorem isJson_unwrapLive (hdata : data.IsJson) (h : unwrapLive data = .ok v) : v.IsJson := by
  unfold unwrapLive at h
  split at h
  · split at h
    · exact isJson_field hdata h
    · exact Except.ok.inj h ▸ hdata
  · exact Except.ok.inj h ▸ hdata

theorem holdsJson_parseParticipant {p : Participant} (hdata : data.IsJson)
    (h : parseParticipant data = .ok p) : p.HoldsJson := by
  obtain ⟨id, -, h⟩ := bind_eq_ok.mp h
  obtain rfl := Except.ok.inj h
  have hoptional := isJson_optional hdata
  exact ⟨isJson_orElse (hoptional _) (.text _), .text _, isJson_orElse (hoptional _) .null,
    isJson_orElse (hoptional _) .null⟩

theorem holdsJson_parseAlternative (h : parseAlternative data = .ok v) :
    ∃ a, v = .alternative a ∧ a.HoldsJson := by
  obtain ⟨text, -, h⟩ := bind_eq_ok.mp h
  obtain ⟨confidence, hconfidence, h⟩ := bind_eq_ok.mp h
  exact ⟨_, (Except.ok.inj h).symm, .text _, isNumber_number hconfidence⟩

theorem holdsJson_parseResult {r : SpeechResult} (h : parseResult data = .ok r) :
    r.HoldsJson := by
  simp only [parseResult, bind_eq_ok] at h
  obtain ⟨_, -, items, -, alternatives, halternatives, id, -, stability, hstability, h⟩ := h
  obtain rfl := Except.ok.inj h
  refine ⟨?_, .text _, isNumber_number hstability⟩
  intro v hv
  obtain ⟨item, -, hitem⟩ := exists_of_mem_mapM halternatives hv
  exact holdsJson_parseAlternative hitem

theorem holdsJson_parseOccurrence {kind : EventKind} {o : Occurrence}
    (h : parseOccurrence data kind = .ok o) : ∀ r, o.result? = some r → r.HoldsJson := by
  cases kind with
  | speech =>
    obtain ⟨r, hr, rfl⟩ := map_eq_ok.mp h
    rintro _ ⟨⟩
    exact holdsJson_parseResult hr
  | join | leave | raiseHand =>
    obtain rfl := Except.ok.inj h
    nofun

theorem holdsJson_parseEvent {e : Event} (hdata : data.IsJson) (h : parseEvent data = .ok e) :
    e.HoldsJson := by
  obtain ⟨payload, hpayload, h⟩ := bind_eq_ok.mp h
  obtain ⟨name, -, h⟩ := bind_eq_ok.mp h
  split at h
  · simp only [bind_eq_ok] at h
    obtain ⟨time, -, d, -, who, hwho, p, hp, o, ho, h⟩ := h
    obtain rfl := Except.ok.inj h
    have hjson := isJson_field (isJson_unwrapLive hdata hpayload) hwho
    exact ⟨holdsJson_parseParticipant hjson hp, holdsJson_parseOccurrence ho⟩
  · cases h

theorem isJson_array {items : List Value} (hdata : data.IsJson) (h : array what data = .ok items) :
    ∀ item ∈ items, item.IsJson := by
  unfold array at h
  split at h
  · obtain rfl := Except.ok.inj h
    nofun
  · obtain rfl := Except.ok.inj h
    exact fun _ => isJson_item hdata
  · cases h

theorem isOptionalTime_optionalTime (h : optionalTime data = .ok v) : v.IsOptionalTime := by
  unfold optionalTime at h
  split at h
  · obtain ⟨d, -, rfl⟩ := map_eq_ok.mp h
    exact .inr ⟨d, rfl⟩
  · exact .inl (Except.ok.inj h).symm

theorem holdsJson_parseTranscript {t : Transcript} (hdata : data.IsJson)
    (h : parseTranscript data = .ok t) : t.HoldsJson := by
  unfold parseTranscript at h
  split at h
  · simp only [bind_eq_ok] at h
    obtain ⟨people, hpeople, items, hitems, start, hstart, stop, hstop, initial, hinitial, events,
      hevents, h⟩ := h
    obtain rfl := Except.ok.inj h
    have hoptional := isJson_optional hdata
    refine ⟨isJson_orElse (hoptional _) .null, isOptionalTime_optionalTime hstart,
      isOptionalTime_optionalTime hstop, fun v hv => ?_, fun v hv => ?_⟩
    · obtain ⟨item, hitem, hparse⟩ := exists_of_mem_mapM hinitial hv
      obtain ⟨p, hp, rfl⟩ := map_eq_ok.mp hparse
      exact ⟨p, rfl, holdsJson_parseParticipant (isJson_array (hoptional _) hpeople item hitem) hp⟩
    · obtain ⟨item, hitem, hparse⟩ := exists_of_mem_mapM hevents hv
      obtain ⟨e, he, rfl⟩ := map_eq_ok.mp hparse
      exact ⟨e, rfl, holdsJson_parseEvent (isJson_array (hoptional _) hitems item hitem) he⟩
  · cases h

end Decoding

section Escapes

variable {f : Failure}

theorem not_escapes_encodeAlternatives {r : SpeechResult} (hr : r.HoldsJson) :
    ¬ Escapes (encodeAlternatives r) f := by
  intro h
  obtain ⟨before, v, after, hl, -, h⟩ := escapes_mapM.mp h
  obtain ⟨a, rfl, -⟩ := hr.alternatives v (hl ▸ by simp)
  exact absurd h not_escapes_ok

/-- An event fails without a breach only by a time that has no UTC reading. -/
theorem escapes_eventFields {e : Event} (he : e.HoldsJson) (h : Escapes (eventFields e) f) :
    f = .dateRange ∧ e.timestamp.isAware = true ∧ ¬ e.timestamp.HasUtc := by
  rcases escapes_bind.mp h with h | ⟨_, -, h⟩
  · simpa [descriptionFields, escapes_bind, escapes_formatReading] using h
  · cases hr : e.occurrence.result? with
    | none => simp [hr] at h
    | some r =>
      simp [hr, speechFields, escapes_bind, not_escapes_encodeAlternatives (he.result r hr)] at h

theorem escapes_transcriptFields {t : Transcript} (ht : t.HoldsJson)
    (h : Escapes (transcriptFields t) f) : f = .dateRange ∧ ¬ t.IsInCalendar := by
  rcases escapes_bind.mp h with h | ⟨_, -, h⟩
  · obtain ⟨hf, d, hd, haware, hutc⟩ := escapes_timeFields ht.startTime h
    exact ⟨hf, fun hin => hutc (hin.startTime d hd haware)⟩
  rcases escapes_bind.mp h with h | ⟨_, -, h⟩
  · obtain ⟨hf, d, hd, haware, hutc⟩ := escapes_timeFields ht.endTime h
    exact ⟨hf, fun hin => hutc (hin.endTime d hd haware)⟩
  rcases escapes_bind.mp h with h | ⟨_, -, h⟩
  · obtain ⟨before, v, after, hl, -, h⟩ := escapes_mapM.mp h
    obtain ⟨p, rfl, -⟩ := ht.initialParticipants v (hl ▸ by simp)
    simp [encodeParticipant] at h
  rcases escapes_bind.mp h with h | ⟨_, -, h⟩
  · obtain ⟨before, v, after, hl, -, h⟩ := escapes_mapM.mp h
    have hv : v ∈ t.events := hl ▸ by simp
    obtain ⟨e, rfl, he⟩ := ht.events v hv
    obtain ⟨hf, haware, hutc⟩ := escapes_eventFields he (escapes_map.mp h)
    exact ⟨hf, fun hin => hutc (hin.events e hv haware)⟩
  · exact absurd h not_escapes_ok

end Escapes

end Wire

end Proceedings
