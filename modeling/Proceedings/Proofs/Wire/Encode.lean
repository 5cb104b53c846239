import Proceedings.Proofs.Value.Fields
import Proceedings.Proofs.Wire.Declared
import Proceedings.Wire.Encode

/-! # Payloads

The payload of each record, if it has one, and which records have none.
-/

namespace Proceedings

open Wire

/-- The payload of a participant. -/
def Participant.fields (p : Participant) : Fields :=
  [(key "name", orEmptyText p.name), (key "id", p.id)] ++ present "email" p.email ++
    present "avatar_url" p.avatarUrl

def Alternative.fields (a : Alternative) : Fields :=
  [(key "text", a.text), (key "confidence", a.confidence)]

def Value.alternativePayload : Value → Value
  | .alternative a => .object a.fields
  | v => v

/-- The part of a payload that only speech has. -/
def SpeechResult.fields (r : SpeechResult) : Fields :=
  [(key "transcript", .list (r.alternatives.map Value.alternativePayload)),
    (key "language", orEmptyText r.language), (key "is_interim", .bool r.isInterim.isTruthy),
    (key "message_id", .text r.messageId.toText), (key "stability", r.stability)]

/-- The part of a payload that all events have. -/
def Event.description (e : Event) : Fields :=
  [(key "event", .text e.kind.text), (key "timestamp", .text e.timestamp.canonicalText),
    (key "participant", .object e.participant.fields)]

def Event.fields (e : Event) : Fields :=
  e.description ++ e.occurrence.result?.elim [] SpeechResult.fields

def Value.participantPayload : Value → Value
  | .participant p => .object p.fields
  | v => v

def Value.eventPayload : Value → Value
  | .event e => .object e.fields
  | v => v

/-- The field of a time that may be null. -/
def Wire.timeField (name : String) : Value → Fields
  | .time d => [(key name, .text d.canonicalText)]
  | _ => []

def Transcript.fields (t : Transcript) : Fields :=
  present "room_name" t.roomName ++ timeField "start_time" t.startTime ++
    timeField "end_time" t.endTime ++
    present "initial_participants" (.list (t.initialParticipants.map Value.participantPayload)) ++
    present "events" (.list (t.events.map Value.eventPayload))

namespace Wire

theorem mem_keys_timeField {name : String} {v : Value} {k : Text} :
    k ∈ (timeField name v).map (·.1) ↔ (∃ d, v = .time d) ∧ k = key name := by
  unfold timeField
  split <;> simp_all

theorem forall_timeField {q : Value → Prop} (hq : ∀ t, q (.text t)) (name : String) (v : Value) :
    ∀ f ∈ timeField name v, q f.2 := by
  unfold timeField
  split <;> simp [hq]

theorem keys_timeField (name : String) (v : Value) :
    ((timeField name v).map (·.1)).Sublist [key name] := by
  unfold timeField
  split <;> simp

section Keys

theorem keys_participant (p : Participant) :
    (p.fields.map (·.1)).Sublist (["name", "id", "email", "avatar_url"].map key) := by
  simp only [Participant.fields, List.map_append]
  exact ((List.Sublist.refl _).append (keys_present _ _)).append (keys_present _ _)

theorem keys_event (e : Event) : (e.fields.map (·.1)).Sublist
    ((["event", "timestamp", "participant"] ++ speechKeys).map key) := by
  cases hr : e.occurrence.result? <;>
    simp [Event.fields, Event.description, SpeechResult.fields, speechKeys, hr]

theorem keys_transcript (t : Transcript) : (t.fields.map (·.1)).Sublist
    (["room_name", "start_time", "end_time", "initial_participants", "events"].map key) := by
  simp only [Transcript.fields, List.map_append]
  exact ((((keys_present _ _).append (keys_timeField _ _)).append (keys_timeField _ _)).append
    (keys_present _ _)).append (keys_present _ _)

theorem get?_timeField_of_ne {name other : String} (h : name ≠ other) (v : Value) :
    (timeField name v).get? (key other) = none := by
  cases v <;> simp [timeField, Fields.get?_cons, h]

theorem get?_participant (p : Participant) :
    p.fields.get? (key "id") = some p.id ∧ p.fields.get? (key "name") = some (orEmptyText p.name) ∧
      p.fields.get? (key "email") = (if isAbsent p.email = false then some p.email else none) ∧
      p.fields.get? (key "avatar_url") =
        (if isAbsent p.avatarUrl = false then some p.avatarUrl else none) := by
  simp [Participant.fields, Fields.get?_append, Fields.get?_cons, get?_present]

theorem get?_event (e : Event) :
    e.fields.get? (key "event") = some (.text e.kind.text) ∧
      e.fields.get? (key "timestamp") = some (.text e.timestamp.canonicalText) ∧
      e.fields.get? (key "participant") = some (.object e.participant.fields) := by
  simp [Event.fields, Event.description, Fields.get?_cons]

theorem get?_speech {e : Event} {r : SpeechResult} (hr : e.occurrence.result? = some r) :
    e.fields.get? (key "transcript") =
        some (.list (r.alternatives.map Value.alternativePayload)) ∧
      e.fields.get? (key "language") = some (orEmptyText r.language) ∧
      e.fields.get? (key "is_interim") = some (.bool r.isInterim.isTruthy) ∧
      e.fields.get? (key "message_id") = some (.text r.messageId.toText) ∧
      e.fields.get? (key "stability") = some r.stability := by
  simp [Event.fields, Event.description, SpeechResult.fields, hr, Fields.get?_cons]

theorem get?_of_no_speech {e : Event} (he : e.occurrence.result? = none) {name : String}
    (hname : name ∈ speechKeys) : e.fields.get? (key name) = none := by
  simp only [speechKeys, List.mem_cons, List.not_mem_nil, or_false] at hname
  rcases hname with rfl | rfl | rfl | rfl | rfl <;>
    simp [Event.fields, Event.description, he, Fields.get?_cons]

theorem get?_transcript (t : Transcript) :
    t.fields.get? (key "room_name") =
        (if isAbsent t.roomName = false then some t.roomName else none) ∧
      t.fields.get? (key "start_time") =
        (timeField "start_time" t.startTime).get? (key "start_time") ∧
      t.fields.get? (key "end_time") = (timeField "end_time" t.endTime).get? (key "end_time") ∧
      t.fields.get? (key "initial_participants") =
        (present "initial_participants"
          (.list (t.initialParticipants.map Value.participantPayload))).get?
          (key "initial_participants") ∧
      t.fields.get? (key "events") =
        (present "events" (.list (t.events.map Value.eventPayload))).get? (key "events") := by
  simp [Transcript.fields, Fields.get?_append, get?_present, get?_timeField_of_ne]

end Keys

theorem require_eq_ok {what : String} {v w : Value} :
    require what v = .ok w ↔ v.IsPresent ∧ w = v := by
  unfold require Value.IsPresent
  split <;> simp_all [eq_comm]

@[simp] theorem not_escapes_require {what : String} {v : Value} {f : Failure} :
    ¬ Escapes (require what v) f := by
  unfold require
  split <;> simp

theorem participantFields_eq_ok {p : Participant} {fields : Fields} :
    participantFields p = .ok fields ↔ p.id.IsPresent ∧ fields = p.fields := by
  have hput (id : Value) : putIfPresent (putIfPresent
      [(key "name", orEmptyText p.name), (key "id", id)] (key "email") p.email)
      (key "avatar_url") p.avatarUrl = [(key "name", orEmptyText p.name), (key "id", id)] ++
        present "email" p.email ++ present "avatar_url" p.avatarUrl := by
    simp (disch := simp [mem_keys_present]) only [putIfPresent_eq]
  simp only [participantFields, hput, pure_eq_ok, bind_eq_ok, require_eq_ok, Except.ok.injEq]
  constructor
  · rintro ⟨id, ⟨hid, rfl⟩, rfl⟩
    exact ⟨hid, rfl⟩
  · rintro ⟨hid, rfl⟩
    exact ⟨p.id, ⟨hid, rfl⟩, rfl⟩

@[simp] theorem not_escapes_participantFields {p : Participant} {f : Failure} :
    ¬ Escapes (participantFields p) f := by
  simp [participantFields, escapes_bind]

theorem encodeParticipant_eq_ok {p : Participant} {v : Value} :
    encodeParticipant (.participant p) = .ok v ↔ p.id.IsPresent ∧ v = .object p.fields := by
  simp only [encodeParticipant, map_eq_ok, participantFields_eq_ok]
  constructor
  · rintro ⟨fields, ⟨hid, rfl⟩, rfl⟩
    exact ⟨hid, rfl⟩
  · rintro ⟨hid, rfl⟩
    exact ⟨p.fields, ⟨hid, rfl⟩, rfl⟩

theorem encodeAlternatives_eq_ok {r : SpeechResult} (hr : r.IsAssembled) :
    encodeAlternatives r = .ok (r.alternatives.map Value.alternativePayload) := by
  refine mapM_ok fun v hv => ?_
  obtain ⟨a, rfl⟩ := hr v hv
  rfl

theorem speechFields_eq_ok {r : SpeechResult} (hr : r.IsAssembled) {fields : Fields} :
    speechFields r = .ok fields ↔ r.messageId.IsPresent ∧ fields = r.fields := by
  simp only [speechFields, encodeAlternatives_eq_ok hr, ok_bind, bind_eq_ok, require_eq_ok,
    pure_eq_ok, Except.ok.injEq]
  constructor
  · rintro ⟨id, ⟨hid, rfl⟩, rfl⟩
    exact ⟨hid, rfl⟩
  · rintro ⟨hid, rfl⟩
    exact ⟨r.messageId, ⟨hid, rfl⟩, rfl⟩

theorem descriptionFields_eq_ok {e : Event} {fields : Fields} :
    descriptionFields e = .ok fields ↔ (e.timestamp.HasUtc ∧ e.participant.id.IsPresent) ∧
      fields = e.description := by
  simp only [descriptionFields, bind_eq_ok, formatReading_ok_iff, participantFields_eq_ok,
    pure_eq_ok, Except.ok.injEq]
  constructor
  · rintro ⟨t, ⟨htime, rfl⟩, p, ⟨hid, rfl⟩, rfl⟩
    exact ⟨⟨htime, hid⟩, rfl⟩
  · rintro ⟨⟨htime, hid⟩, rfl⟩
    exact ⟨_, ⟨htime, rfl⟩, _, ⟨hid, rfl⟩, rfl⟩

theorem eventFields_eq_ok {e : Event} (he : e.IsAssembled) {fields : Fields} :
    eventFields e = .ok fields ↔ e.IsEncodable ∧ fields = e.fields := by
  rw [eventFields, bind_eq_ok]
  cases hr : e.occurrence.result? with
  | none =>
    simp only [descriptionFields_eq_ok, pure_eq_ok, Except.ok.injEq, Event.fields, hr,
      Option.elim_none, List.append_nil]
    constructor
    · rintro ⟨_, ⟨⟨htime, hid⟩, rfl⟩, rfl⟩
      exact ⟨⟨htime, hid, by simp [hr]⟩, rfl⟩
    · rintro ⟨h, rfl⟩
      exact ⟨_, ⟨⟨h.timestamp, h.participantId⟩, rfl⟩, rfl⟩
  | some r =>
    simp only [descriptionFields_eq_ok, bind_eq_ok, speechFields_eq_ok (he r hr),
      pure_eq_ok, Except.ok.injEq, Event.fields, hr, Option.elim_some]
    constructor
    · rintro ⟨_, ⟨⟨htime, hid⟩, rfl⟩, _, ⟨hmessage, rfl⟩, rfl⟩
      exact ⟨⟨htime, hid, by simpa [hr] using hmessage⟩, rfl⟩
    · rintro ⟨h, rfl⟩
      exact ⟨_, ⟨⟨h.timestamp, h.participantId⟩, rfl⟩, _, ⟨h.messageId r hr, rfl⟩, rfl⟩

theorem encodeEvent_ok_iff {e : Event} (he : e.IsAssembled) {v : Value} :
    encodeEvent (.event e) = .ok v ↔ e.IsEncodable ∧ v = .object e.fields := by
  simp only [encodeEvent, map_eq_ok, eventFields_eq_ok he]
  constructor
  · rintro ⟨fields, ⟨h, rfl⟩, rfl⟩
    exact ⟨h, rfl⟩
  · rintro ⟨h, rfl⟩
    exact ⟨e.fields, ⟨h, rfl⟩, rfl⟩

theorem timeFields_eq_ok {name : String} {v : Value} (hv : v.IsOptionalTime) {fields : Fields} :
    timeFields name v = .ok fields ↔ (∀ d, v = .time d → d.HasUtc) ∧ fields = timeField name v := by
  rcases hv with rfl | ⟨d, rfl⟩
  · simp [timeFields, timeField, Value.isNull, eq_comm]
  · simp only [timeFields, Value.isNull, Bool.false_eq_true, if_false, bind_eq_ok, formatInstant,
      formatReading_ok_iff, pure_eq_ok, Except.ok.injEq, timeField, Value.time.injEq,
      forall_eq']
    constructor
    · rintro ⟨t, ⟨htime, rfl⟩, rfl⟩
      exact ⟨htime, rfl⟩
    · rintro ⟨htime, rfl⟩
      exact ⟨_, ⟨htime, rfl⟩, rfl⟩

theorem escapes_timeFields {name : String} {v : Value} (hv : v.IsOptionalTime) {f : Failure}
    (h : Escapes (timeFields name v) f) :
    f = .dateRange ∧ ∃ d, v = .time d ∧ d.isAware = true ∧ ¬ d.HasUtc := by
  rcases hv with rfl | ⟨d, rfl⟩
  · exact absurd h not_escapes_ok
  · have hread : Escapes (formatReading d) f := by
      simpa [timeFields, Value.isNull, formatInstant, escapes_bind] using h
    obtain ⟨hf, hd⟩ := escapes_formatReading.mp hread
    exact ⟨hf, d, rfl, hd⟩

theorem encodeInitial_eq_ok {t : Transcript} (ht : t.IsAssembled) {items : List Value} :
    t.initialParticipants.mapM encodeParticipant = .ok items ↔
      (∀ p, .participant p ∈ t.initialParticipants → p.id.IsPresent) ∧
        items = t.initialParticipants.map Value.participantPayload := by
  rw [mapM_eq_ok (p := fun v => ∀ p, v = .participant p → p.id.IsPresent)
    (g := Value.participantPayload)]
  · refine and_congr_left fun _ => ⟨fun h p hp => h _ hp p rfl, ?_⟩
    rintro h _ hv p rfl
    exact h p hv
  · intro v hv w
    obtain ⟨p, rfl⟩ := ht.initialParticipants v hv
    simp [encodeParticipant_eq_ok, Value.participantPayload]

theorem encodeEvents_eq_ok {t : Transcript} (ht : t.IsAssembled) {items : List Value} :
    t.events.mapM encodeEvent = .ok items ↔
      (∀ e, .event e ∈ t.events → e.IsEncodable) ∧ items = t.events.map Value.eventPayload := by
  rw [mapM_eq_ok (p := fun v => ∀ e, v = .event e → e.IsEncodable) (g := Value.eventPayload)]
  · refine and_congr_left fun _ => ⟨fun h e he => h _ he e rfl, ?_⟩
    rintro h _ hv e rfl
    exact h e hv
  · intro v hv w
    obtain ⟨e, rfl, he⟩ := ht.events v hv
    simp [encodeEvent_ok_iff he, Value.eventPayload]

theorem transcriptFields_eq_ok {t : Transcript} (ht : t.IsAssembled) {fields : Fields} :
    transcriptFields t = .ok fields ↔ t.IsEncodable ∧ fields = t.fields := by
  have hput (items events : List Value) :
      putIfPresent (putIfPresent (putIfPresent [] (key "room_name") t.roomName ++
        timeField "start_time" t.startTime ++ timeField "end_time" t.endTime)
        (key "initial_participants") (.list items)) (key "events") (.list events) =
      present "room_name" t.roomName ++ timeField "start_time" t.startTime ++
        timeField "end_time" t.endTime ++ present "initial_participants" (.list items) ++
        present "events" (.list events) := by
    simp (disch := simp [mem_keys_present, mem_keys_timeField]) only
      [putIfPresent_eq, List.nil_append]
  simp only [transcriptFields, bind_eq_ok, timeFields_eq_ok ht.startTime,
    timeFields_eq_ok ht.endTime, encodeInitial_eq_ok ht, encodeEvents_eq_ok ht, pure_eq_ok,
    Except.ok.injEq]
  constructor
  · rintro ⟨_, ⟨hstart, rfl⟩, _, ⟨hend, rfl⟩, _, ⟨hinitial, rfl⟩, _, ⟨hevents, rfl⟩, rfl⟩
    exact ⟨⟨hstart, hend, hinitial, hevents⟩, hput _ _⟩
  · rintro ⟨h, rfl⟩
    exact ⟨_, ⟨h.startTime, rfl⟩, _, ⟨h.endTime, rfl⟩, _, ⟨h.participantId, rfl⟩, _,
      ⟨h.events, rfl⟩, hput _ _⟩

theorem encodeTranscript_ok_iff {t : Transcript} (ht : t.IsAssembled)
    {v : Value} :
    encodeTranscript (.transcript t) = .ok v ↔ t.IsEncodable ∧ v = .object t.fields := by
  simp only [encodeTranscript, map_eq_ok, transcriptFields_eq_ok ht]
  constructor
  · rintro ⟨fields, ⟨h, rfl⟩, rfl⟩
    exact ⟨h, rfl⟩
  · rintro ⟨h, rfl⟩
    exact ⟨t.fields, ⟨h, rfl⟩, rfl⟩

section

variable {number : Value → Prop}

theorem encodeEvent_eq_ok {e : Event} (he : e.IsDeclared number) {v : Value} :
    encodeEvent (.event e) = .ok v ↔ e.IsEncodable ∧ v = .object e.fields :=
  encodeEvent_ok_iff he.isAssembled

theorem encodeTranscript_eq_ok {t : Transcript} (ht : t.IsDeclared number) {v : Value} :
    encodeTranscript (.transcript t) = .ok v ↔ t.IsEncodable ∧ v = .object t.fields :=
  encodeTranscript_ok_iff ht.isAssembled

end

end Wire

section Assembled

variable {v w : Value}

theorem Wire.exists_alternative_of_encode (h : encodeAlternative v = .ok w) :
    ∃ a, v = .alternative a := by
  obtain ⟨_, -, h⟩ := bind_eq_ok.mp h
  obtain ⟨_, hconfidence, -⟩ := bind_eq_ok.mp h
  cases v <;> first | exact ⟨_, rfl⟩ | cases hconfidence

theorem SpeechResult.isAssembled_of_encode {r : SpeechResult} {items : List Value}
    (h : encodeAlternatives r = .ok items) : r.IsAssembled := by
  intro v hv
  obtain ⟨w, hw⟩ := exists_mapM_eq_ok.mp ⟨items, h⟩ v hv
  exact exists_alternative_of_encode hw

theorem Event.isAssembled_of_encode {e : Event} {fields : Fields} (h : eventFields e = .ok fields) :
    e.IsAssembled := by
  intro r hr
  obtain ⟨_, -, h⟩ := bind_eq_ok.mp h
  rw [hr] at h
  obtain ⟨_, hspeech, -⟩ := bind_eq_ok.mp h
  obtain ⟨_, halternatives, -⟩ := bind_eq_ok.mp hspeech
  exact SpeechResult.isAssembled_of_encode halternatives

theorem Wire.isOptionalTime_of_encode {name : String} {fields : Fields}
    (h : timeFields name v = .ok fields) : v.IsOptionalTime := by
  unfold timeFields at h
  split at h
  · next hnull =>
    cases v <;> first | exact .inl rfl | cases hnull
  · obtain ⟨_, hinstant, -⟩ := bind_eq_ok.mp h
    cases v <;> first | exact .inr ⟨_, rfl⟩ | cases hinstant

/-- A transcript with a payload is made of participants, events and interpretations. -/
theorem Transcript.isAssembled_of_encode {t : Transcript}
    (h : encodeTranscript (.transcript t) = .ok v) : t.IsAssembled := by
  obtain ⟨fields, hfields, -⟩ := map_eq_ok.mp h
  simp only [transcriptFields, bind_eq_ok] at hfields
  obtain ⟨_, hstart, _, hstop, _, hinitial, _, hevents, -⟩ := hfields
  refine ⟨isOptionalTime_of_encode hstart, isOptionalTime_of_encode hstop, fun v hv => ?_,
    fun v hv => ?_⟩
  · obtain ⟨w, hw⟩ := exists_mapM_eq_ok.mp ⟨_, hinitial⟩ v hv
    cases v <;> first | exact ⟨_, rfl⟩ | cases hw
  · obtain ⟨w, hw⟩ := exists_mapM_eq_ok.mp ⟨_, hevents⟩ v hv
    cases v with
    | event e =>
      obtain ⟨_, hfields, -⟩ := map_eq_ok.mp hw
      exact ⟨e, rfl, Event.isAssembled_of_encode hfields⟩
    | _ => cases hw

theorem Wire.encodeTranscript_spec {t : Transcript} (h : encodeTranscript (.transcript t) = .ok v) :
    t.IsAssembled ∧ t.IsEncodable ∧ v = .object t.fields := by
  have hassembled := Transcript.isAssembled_of_encode h
  exact ⟨hassembled, (encodeTranscript_ok_iff hassembled).mp h⟩

theorem Wire.formatTranscript_eq_ok :
    formatTranscript v = .ok w ↔ encodeTranscript v = .ok w ∧ validateArtifact w = .ok () := by
  simp only [formatTranscript, bind_eq_ok, pure_eq_ok, Except.ok.injEq]
  constructor
  · rintro ⟨_, hencode, _, hvalid, rfl⟩
    exact ⟨hencode, hvalid⟩
  · rintro ⟨hencode, hvalid⟩
    exact ⟨w, hencode, (), hvalid, rfl⟩

end Assembled

end Proceedings
