import Proceedings.Proofs.Wire.Encode
import Proceedings.Wire.Decode

/-! # Round trips

The payload of a record is read back as the record in its normal form: absent texts in one form,
readings in UTC, truth values and message ids in their plain forms, and all else as it was.
-/

namespace Proceedings

open Wire

def Value.nullIfEmpty : Value → Value
  | .text [] => .null
  | v => v

def Value.inUtc : Value → Value
  | .time d => .time d.utc
  | v => v

/-- A participant with an empty text for no name and null for other texts that are empty. -/
def Participant.normal (p : Participant) : Participant :=
  ⟨orEmptyText p.name, p.id, p.email.nullIfEmpty, p.avatarUrl.nullIfEmpty⟩

/-- A speech result with an empty text for no language, a truth value and a text as message id. -/
def SpeechResult.normal (r : SpeechResult) : SpeechResult :=
  ⟨r.alternatives, orEmptyText r.language, .bool r.isInterim.isTruthy, .text r.messageId.toText,
    r.stability⟩

def Occurrence.normal : Occurrence → Occurrence
  | .speech r => .speech r.normal
  | o => o

def Event.normal (e : Event) : Event :=
  ⟨e.timestamp.utc, e.participant.normal, e.occurrence.normal⟩

def Value.normal : Value → Value
  | .participant p => .participant p.normal
  | .event e => .event e.normal
  | v => v

/-- A transcript in UTC with its parts in normal form, in the same order. -/
def Transcript.normal (t : Transcript) : Transcript :=
  ⟨t.roomName.nullIfEmpty, t.startTime.inUtc, t.endTime.inUtc,
    t.initialParticipants.map Value.normal, t.events.map Value.normal⟩

namespace Wire

variable {fields : Fields} {name : String} {v : Value}

theorem field_of_get? (what : String) (h : fields.get? (key name) = some v) (hv : v ≠ .null) :
    field what (.object fields) name = .ok v := by
  simp only [field, h]

theorem optional_of_get? (h : fields.get? (key name) = some v) :
    optional (.object fields) name = v := by
  simp [optional, h, Value.ofOption]

theorem orElse_optionalText {v : Value} (hv : v.IsOptionalText) :
    (Value.ofOption (if isAbsent v = false then some v else none)).orElse .null =
      v.nullIfEmpty := by
  rcases hv with rfl | ⟨t, rfl⟩
  · rfl
  · cases t <;> simp [isAbsent, Value.ofOption, Value.orElse, Value.isTruthy, Value.nullIfEmpty]

theorem orElse_orEmptyText {v : Value} (hv : v.IsOptionalText) :
    (orEmptyText v).orElse (.str "") = orEmptyText v := by
  rcases hv with rfl | ⟨t, rfl⟩
  · rfl
  · cases t <;> rfl

theorem text_toText_orEmptyText {v : Value} (hv : v.IsOptionalText) :
    Value.text (orEmptyText v).toText = orEmptyText v := by
  rcases hv with rfl | ⟨t, rfl⟩ <;> rfl

theorem parseParticipant_fields {p : Participant} (hp : p.IsDeclared) (hid : p.id.IsPresent) :
    parseParticipant (.object p.fields) = .ok p.normal := by
  obtain ⟨gid, gname, gemail, gavatar⟩ := get?_participant p
  have hidText : Value.text p.id.toText = p.id := by
    rcases hp.id with h | ⟨t, h⟩
    · exact absurd h hid.1
    · rw [h]
      rfl
  rw [parseParticipant, field_of_get? "participant" gid hid.1, ok_bind, hidText,
    optional_of_get? gname, orElse_orEmptyText hp.name, optional, optional, gemail, gavatar,
    orElse_optionalText hp.email, orElse_optionalText hp.avatarUrl]
  rfl

theorem parseAlternative_fields {a : Alternative} (ha : a.IsDeclared Value.IsFloat) :
    parseAlternative (.object a.fields) = .ok (.alternative a) := by
  obtain ⟨text, confidence⟩ := a
  obtain ⟨⟨t, rfl⟩, ⟨x, rfl⟩⟩ := ha
  rfl

theorem parseAlternatives_fields {r : SpeechResult} (hr : r.IsDeclared Value.IsFloat) :
    (r.alternatives.map Value.alternativePayload).mapM parseAlternative = .ok r.alternatives := by
  rw [List.mapM_map, mapM_ok (g := id), List.map_id]
  intro v hv
  obtain ⟨a, rfl, ha⟩ := hr.alternatives v hv
  exact parseAlternative_fields ha

theorem parseResult_fields {e : Event} {r : SpeechResult} (her : e.occurrence.result? = some r)
    (hr : r.IsDeclared Value.IsFloat) : parseResult (.object e.fields) = .ok r.normal := by
  obtain ⟨gtranscript, glanguage, ginterim, gmessage, gstability⟩ := get?_speech her
  have hstability (what : String) : number what r.stability = .ok r.stability := by
    obtain ⟨x, hx⟩ := hr.stability
    rw [hx]
    rfl
  rw [parseResult, field_of_get? "SPEECH event" gtranscript (by simp), ok_bind, array, ok_bind,
    parseAlternatives_fields hr, ok_bind, field_of_get? "SPEECH event" gmessage (by simp), ok_bind,
    optional_of_get? gstability, hstability, ok_bind, optional_of_get? glanguage,
    orElse_orEmptyText hr.language, text_toText_orEmptyText hr.language, optional_of_get? ginterim]
  rfl

theorem unwrapLive_fields (e : Event) : unwrapLive (.object e.fields) = .ok (.object e.fields) := by
  have htopic : e.fields.has topicKey = false := by
    rw [Bool.eq_false_iff, ne_eq, Fields.has_iff_mem]
    cases h : e.occurrence.result? <;>
      simp [Event.fields, Event.description, SpeechResult.fields, topicKey, h]
  simp [unwrapLive, htopic]

theorem unwrapLive_wrapLive {payload : Value} (h : payload ≠ .null) :
    unwrapLive (wrapLive payload) = .ok payload := by
  have hpayload : Fields.get? [(topicKey, topic), (payloadKey, payload)] (key "payload") =
      some payload := by
    simp [Fields.get?_cons, topicKey, payloadKey]
  simp [wrapLive, unwrapLive, Fields.has, field_of_get? "live message" hpayload h]

@[simp] theorem ofValue_kind (k : EventKind) : EventKind.ofValue? (.text k.text) = some k := by
  cases k <;> decide

theorem parseOccurrence_fields {e : Event} (he : e.IsDeclared Value.IsFloat) :
    parseOccurrence (.object e.fields) e.kind = .ok e.occurrence.normal := by
  cases h : e.occurrence with
  | join | leave | raiseHand => simp [Event.kind, Occurrence.kind, h, parseOccurrence,
      Occurrence.normal]
  | speech r =>
    have hr : e.occurrence.result? = some r := by simp [h, Occurrence.result?]
    simp only [Event.kind, Occurrence.kind, h, parseOccurrence,
      parseResult_fields hr (he.result r hr), map_ok, Occurrence.normal]

/-- The payload of an event is read back as its normal form, bare or in a live message. -/
theorem parseEvent_fields {e : Event} (he : e.IsDeclared Value.IsFloat) (henc : e.IsEncodable)
    {message : Value} (hmessage : unwrapLive message = .ok (.object e.fields)) :
    parseEvent message = .ok e.normal := by
  obtain ⟨gevent, gtimestamp, gparticipant⟩ := get?_event e
  simp only [parseEvent, hmessage, ok_bind, field_of_get? "event" gevent (by simp),
    field_of_get? "event" gtimestamp (by simp), field_of_get? "event" gparticipant (by simp),
    ofValue_kind, parseInstant_canonicalText henc.timestamp,
    parseParticipant_fields he.participant henc.participantId,
    parseOccurrence_fields he]
  rfl

theorem optionalTime_timeField {v : Value} (hv : v.IsOptionalTime)
    (hutc : ∀ d, v = .time d → d.HasUtc) (name : String) :
    optionalTime (Value.ofOption ((timeField name v).get? (key name))) = .ok v.inUtc := by
  rcases hv with rfl | ⟨d, rfl⟩
  · rfl
  · have htext : d.canonicalText ≠ [] := by
      simp [DateTime.canonicalText, Text.ofChars, DateTime.canonicalChars]
    simp [timeField, Fields.get?_cons, Value.ofOption, optionalTime, Value.isTruthy, htext,
      parseInstant_canonicalText (hutc d rfl), Value.inUtc]

theorem array_present (what name : String) (items : List Value) :
    array what (Value.ofOption ((present name (.list items)).get? (key name))) = .ok items := by
  cases items <;> simp [get?_present, isAbsent, Value.ofOption, array]

theorem mapM_payload {l : List Value} {payload : Value → Value}
    {parse : Value → Except Failure Value} (h : ∀ v ∈ l, parse (payload v) = .ok v.normal) :
    (l.map payload).mapM parse = .ok (l.map Value.normal) := by
  rw [List.mapM_map]
  exact mapM_ok h

theorem parseTranscript_fields {t : Transcript} (ht : t.IsDeclared Value.IsFloat)
    (henc : t.IsEncodable) : parseTranscript (.object t.fields) = .ok t.normal := by
  obtain ⟨groom, gstart, gend, ginitial, gevents⟩ := get?_transcript t
  have hinitial : (t.initialParticipants.map Value.participantPayload).mapM
      (fun p => Value.participant <$> parseParticipant p) =
        .ok (t.initialParticipants.map Value.normal) := by
    refine mapM_payload fun v hv => ?_
    obtain ⟨p, rfl, hp⟩ := ht.initialParticipants v hv
    rw [Value.participantPayload, parseParticipant_fields hp (henc.participantId p hv)]
    rfl
  have hevents : (t.events.map Value.eventPayload).mapM (fun e => Value.event <$> parseEvent e) =
      .ok (t.events.map Value.normal) := by
    refine mapM_payload fun v hv => ?_
    obtain ⟨e, rfl, he⟩ := ht.events v hv
    rw [Value.eventPayload, parseEvent_fields he (henc.events e hv) (unwrapLive_fields e)]
    rfl
  rw [parseTranscript, optional, optional, optional, optional, optional, groom, gstart, gend,
    ginitial, gevents, array_present, ok_bind, array_present, ok_bind,
    optionalTime_timeField ht.startTime henc.startTime, ok_bind,
    optionalTime_timeField ht.endTime henc.endTime, ok_bind, hinitial, ok_bind, hevents, ok_bind,
    orElse_optionalText ht.roomName]
  rfl

/-- Whatever is encoded is read back as its normal form: the artifact of a transcript, an event,
bare or in a live message, and a participant. -/
theorem decode_encode (t : Transcript) (e : Event) (p : Participant) (payload : Value) :
    (t.IsDeclared Value.IsFloat → formatTranscript (.transcript t) = .ok payload →
      parseTranscript payload = .ok t.normal) ∧
    (e.IsDeclared Value.IsFloat → encodeEvent (.event e) = .ok payload →
      parseEvent payload = .ok e.normal) ∧
    (e.IsDeclared Value.IsFloat → encodeLive (.event e) = .ok payload →
      parseEvent payload = .ok e.normal) ∧
    (p.IsDeclared → encodeParticipant (.participant p) = .ok payload →
      parseParticipant payload = .ok p.normal) := by
  refine ⟨fun ht h => ?_, fun he h => ?_, fun he h => ?_, fun hp h => ?_⟩
  · obtain ⟨hencode, -⟩ := formatTranscript_eq_ok.mp h
    obtain ⟨henc, rfl⟩ := (encodeTranscript_eq_ok ht).mp hencode
    exact parseTranscript_fields ht henc
  · obtain ⟨henc, rfl⟩ := (encodeEvent_eq_ok he).mp h
    exact parseEvent_fields he henc (unwrapLive_fields e)
  · obtain ⟨_, hencode, rfl⟩ := map_eq_ok.mp h
    obtain ⟨henc, rfl⟩ := (encodeEvent_eq_ok he).mp hencode
    exact parseEvent_fields he henc (unwrapLive_wrapLive (by simp))
  · obtain ⟨hid, rfl⟩ := encodeParticipant_eq_ok.mp h
    exact parseParticipant_fields hp hid

/-- A participant without an address and with an empty picture. -/
def quietGuest : Participant := ⟨.null, .str "guest", .null, .str ""⟩

/-- A remark made two hours ahead of UTC, with two interpretations. -/
def remark : Event :=
  ⟨⟨⟨63870000000123000, by decide⟩, some ⟨7200000000, by decide, by decide⟩, none⟩, quietGuest,
    .speech ⟨[.alternative ⟨.str "hello", .float (.ofRank false 1)⟩,
      .alternative ⟨.str "", .float .zero⟩], .null, .int 0, .uuid ⟨7, by decide⟩, .float .zero⟩⟩

def briefing : Transcript :=
  ⟨.str "", .time remark.timestamp, .null, [.participant quietGuest], [.event remark]⟩

theorem quietGuest_declared : quietGuest.IsDeclared :=
  ⟨.inl rfl, .inr ⟨_, rfl⟩, .inl rfl, .inr ⟨_, rfl⟩⟩

theorem remark_declared : remark.IsDeclared Value.IsFloat := by
  refine ⟨quietGuest_declared, fun r hr => ?_⟩
  obtain rfl := Option.some.inj hr
  refine ⟨fun v hv => ?_, .inl rfl, .inr (.inr ⟨_, rfl⟩), ⟨_, rfl⟩⟩
  rcases List.mem_cons.mp hv with rfl | hv
  · exact ⟨_, rfl, ⟨_, rfl⟩, ⟨_, rfl⟩⟩
  · exact ⟨_, List.mem_singleton.mp hv, ⟨_, rfl⟩, ⟨_, rfl⟩⟩

theorem briefing_declared : briefing.IsDeclared Value.IsFloat := by
  refine ⟨.inr ⟨_, rfl⟩, .inr ⟨_, rfl⟩, .inl rfl, fun v hv => ?_, fun v hv => ?_⟩
  · exact ⟨_, List.mem_singleton.mp hv, quietGuest_declared⟩
  · exact ⟨_, List.mem_singleton.mp hv, remark_declared⟩

theorem decode_encode_briefing :
    ∃ artifact live guest,
      formatTranscript (.transcript briefing) = .ok artifact ∧
      parseTranscript artifact = .ok briefing.normal ∧
      encodeLive (.event remark) = .ok live ∧ parseEvent live = .ok remark.normal ∧
      encodeParticipant (.participant quietGuest) = .ok guest ∧
      parseParticipant guest = .ok quietGuest.normal := by
  have hartifact : formatTranscript (.transcript briefing) = .ok (.object briefing.fields) := by cbv
  have hlive : encodeLive (.event remark) = .ok (wrapLive (.object remark.fields)) := by cbv
  have hguest : encodeParticipant (.participant quietGuest) = .ok (.object quietGuest.fields) := by
    cbv
  exact ⟨_, _, _,
    hartifact, (decode_encode briefing remark quietGuest _).1 briefing_declared hartifact,
    hlive, (decode_encode briefing remark quietGuest _).2.2.1 remark_declared hlive,
    hguest, (decode_encode briefing remark quietGuest _).2.2.2 quietGuest_declared hguest⟩

end Wire

end Proceedings
