import Proceedings.Proofs.Binary64.Range
import Proceedings.Proofs.Value.Fields
import Proceedings.Proofs.Wire.Grammar
import Proceedings.Wire.Decode

/-! # The grammar of what decodes

Which values decoding accepts, and what each part of a record is read from. Decoding is more liberal
than the schema of artifacts: keys may be missing, null or unknown, and texts are made of any value.
-/

namespace Proceedings

open Wire

namespace Wire.Input

/-- A number that has a nearest binary number. A truth value is no number. -/
def IsConvertible (v : Value) : Prop :=
  (∃ x, v = .float x) ∨ ∃ n, v = .int n ∧ n.natAbs < 2 ^ 1024 - 2 ^ 970

def IsOptionalNumber (v : Value) : Prop := v = .null ∨ IsConvertible v

/-- A value that counts as absent, or the text of a time. -/
def IsOptionalTime (v : Value) : Prop := v.isTruthy = false ∨ ∃ d, parseInstant v = .ok d

def IsOptionalArrayOf (p : Value → Prop) (v : Value) : Prop := v = .null ∨ v.IsArrayOf p

inductive IsParticipant : Value → Prop
  | object {fields : Fields} (id : fields.Holds "id" (· ≠ .null)) : IsParticipant (.object fields)

inductive IsAlternative : Value → Prop
  | object {fields : Fields} (text : fields.Holds "text" (· ≠ .null))
      (confidence : fields.MayHold "confidence" IsOptionalNumber) : IsAlternative (.object fields)

structure IsSpeech (fields : Fields) : Prop where
  transcript : fields.Holds "transcript" (Value.IsArrayOf IsAlternative)
  messageId : fields.Holds "message_id" (· ≠ .null)
  stability : fields.MayHold "stability" IsOptionalNumber

inductive IsBareEvent (fields : Fields) : Prop
  | intro {kind : EventKind} (event : fields.Holds "event" fun v => v.text? = some kind.text)
      (timestamp : fields.Holds "timestamp" fun v => ∃ d, parseInstant v = .ok d)
      (participant : fields.Holds "participant" IsParticipant)
      (speech : kind = .speech → IsSpeech fields)

/-- An object stands for its fields; with the key that marks a live message it is an envelope, and
stands for the fields of the object in it. -/
inductive Carries : Value → Fields → Prop
  | bare {fields : Fields} (h : fields.has topicKey = false) : Carries (.object fields) fields
  | live {fields inner : Fields} (h : fields.has topicKey = true)
      (payload : fields.Holds "payload" (· = .object inner)) : Carries (.object fields) inner

def IsEvent (v : Value) : Prop := ∃ fields, Carries v fields ∧ IsBareEvent fields

inductive IsTranscript : Value → Prop
  | object {fields : Fields} (startTime : fields.MayHold "start_time" IsOptionalTime)
      (endTime : fields.MayHold "end_time" IsOptionalTime)
      (initialParticipants :
        fields.MayHold "initial_participants" (IsOptionalArrayOf IsParticipant))
      (events : fields.MayHold "events" (IsOptionalArrayOf IsEvent)) :
      IsTranscript (.object fields)

/-- The binary number that a number is read as. Null is zero. -/
inductive ReadsNumber : Value → Value → Prop
  | null : ReadsNumber .null (.float .zero)
  | float (x : Binary64) : ReadsNumber (.float x) (.float x)
  | int {n : Int} {x : Binary64} (h : Binary64.ofInt? n = some x) :
      ReadsNumber (.int n) (.float x)

/-- The time that a value is read as. What counts as absent is none. -/
inductive ReadsTime : Value → Value → Prop
  | absent {v : Value} (h : v.isTruthy = false) : ReadsTime v .null
  | time {v : Value} {d : DateTime} (h : parseInstant v = .ok d) : ReadsTime v (.time d)

inductive HasItems : Value → List Value → Prop
  | null : HasItems .null []
  | list (items : List Value) : HasItems (.list items) items

end Wire.Input

open Wire.Input

structure Participant.IsReadFrom (p : Participant) (fields : Fields) : Prop where
  id : fields.Holds "id" fun v => v ≠ .null ∧ p.id = .text v.toText
  name : p.name = (fields.valueAt "name").orElse (.str "")
  email : p.email = (fields.valueAt "email").orElse .null
  avatarUrl : p.avatarUrl = (fields.valueAt "avatar_url").orElse .null

structure Alternative.IsReadFrom (a : Alternative) (fields : Fields) : Prop where
  text : fields.Holds "text" fun v => v ≠ .null ∧ a.text = .text v.toText
  confidence : ReadsNumber (fields.valueAt "confidence") a.confidence

namespace Wire.Input

def ReadsAlternative (item v : Value) : Prop :=
  ∃ fields a, item = .object fields ∧ v = .alternative a ∧ a.IsReadFrom fields

def ReadsParticipant (item v : Value) : Prop :=
  ∃ fields p, item = .object fields ∧ v = .participant p ∧ p.IsReadFrom fields

end Wire.Input

/-- What the parts of a speech result are read from: the interpretations from the items of an array,
one from each, in order. -/
structure SpeechResult.IsReadFrom (r : SpeechResult) (fields : Fields) : Prop where
  alternatives : fields.Holds "transcript" fun v => ∃ items, v = .list items ∧
    List.Forall₂ ReadsAlternative items r.alternatives
  language : r.language = .text ((fields.valueAt "language").orElse (.str "")).toText
  isInterim : r.isInterim = .bool (fields.valueAt "is_interim").isTruthy
  messageId : fields.Holds "message_id" fun v => v ≠ .null ∧ r.messageId = .text v.toText
  stability : ReadsNumber (fields.valueAt "stability") r.stability

structure Event.IsReadFrom (e : Event) (fields : Fields) : Prop where
  kind : fields.Holds "event" fun v => v.text? = some e.kind.text
  timestamp : fields.Holds "timestamp" fun v => parseInstant v = .ok e.timestamp
  participant : fields.Holds "participant" fun v => ∃ inner, v = .object inner ∧
    e.participant.IsReadFrom inner
  result : ∀ r, e.occurrence.result? = some r → r.IsReadFrom fields

def Wire.Input.ReadsEvent (item v : Value) : Prop :=
  ∃ fields e, Carries item fields ∧ v = .event e ∧ e.IsReadFrom fields

/-- What the parts of a transcript are read from: the participants and the events from the items of
arrays, one from each, in order. -/
structure Transcript.IsReadFrom (t : Transcript) (fields : Fields) : Prop where
  roomName : t.roomName = (fields.valueAt "room_name").orElse .null
  startTime : ReadsTime (fields.valueAt "start_time") t.startTime
  endTime : ReadsTime (fields.valueAt "end_time") t.endTime
  initialParticipants : ∃ items, HasItems (fields.valueAt "initial_participants") items ∧
    List.Forall₂ ReadsParticipant items t.initialParticipants
  events : ∃ items, HasItems (fields.valueAt "events") items ∧
    List.Forall₂ ReadsEvent items t.events

namespace Wire.Input

variable {data v w : Value} {what name : String} {fields : Fields}

section Decoding

theorem optional_object (fields : Fields) (name : String) :
    optional (.object fields) name = fields.valueAt name := rfl

theorem field_object_ok_iff :
    field what (.object fields) name = .ok v ↔ fields.get? (key name) = some v ∧ v ≠ .null := by
  simp only [field]
  split
  · simp [*]
  · next hget =>
    rw [hget]
    constructor
    · intro h
      cases h
    · rintro ⟨hv, hnull⟩
      exact absurd (Option.some.inj hv).symm hnull
  · next w hnull hget =>
    rw [hget, Except.ok.injEq, Option.some.injEq, iff_self_and]
    rintro rfl rfl
    exact hnull rfl

theorem field_ok_of_get? (what : String) (h : fields.get? (key name) = some v) (hv : v ≠ .null) :
    field what (.object fields) name = .ok v := field_object_ok_iff.mpr ⟨h, hv⟩

theorem field_holds_iff (what : String) {p : Value → Prop} :
    (∃ v, field what (.object fields) name = .ok v ∧ p v) ↔
      fields.Holds name fun v => v ≠ .null ∧ p v := by
  simp only [field_object_ok_iff, and_assoc, Fields.Holds]

theorem exists_object_of_field (h : field what data name = .ok v) :
    ∃ fields, data = .object fields := by
  unfold field at h
  split at h
  · exact ⟨_, rfl⟩
  · cases h

theorem number_ok_iff : number what v = .ok w ↔ ReadsNumber v w := by
  constructor
  · intro h
    unfold number at h
    split at h
    · obtain rfl := Except.ok.inj h
      exact .null
    · split at h
      · next hx =>
        obtain rfl := Except.ok.inj h
        exact .int hx
      · cases h
    · obtain rfl := Except.ok.inj h
      exact .float _
    · cases h
  · intro h
    cases h with
    | null => rfl
    | float x => rfl
    | int hx =>
      unfold number
      dsimp only
      rw [hx]

theorem array_ok_iff {items : List Value} : array what v = .ok items ↔ HasItems v items := by
  constructor
  · intro h
    cases v with
    | null => exact Except.ok.inj h ▸ .null
    | list items => exact Except.ok.inj h ▸ .list items
    | _ => cases h
  · rintro (_ | _) <;> rfl

theorem isTruthy_of_parseInstant {d : DateTime} (h : parseInstant v = .ok d) :
    v.isTruthy = true := by
  unfold parseInstant at h
  split at h
  · next ht => cases v <;> simp_all [Value.text?, Value.isTruthy]
  · cases h

theorem optionalTime_ok_iff : optionalTime v = .ok w ↔ ReadsTime v w := by
  unfold optionalTime
  constructor
  · intro h
    split at h
    · obtain ⟨d, hd, rfl⟩ := map_eq_ok.mp h
      exact .time hd
    · next hfalsy =>
      obtain rfl := Except.ok.inj h
      exact .absent (by simpa using hfalsy)
  · rintro (hfalsy | hd)
    · simp [hfalsy]
    · simp [isTruthy_of_parseInstant hd, hd]

theorem ofValue?_eq_some_iff {kind : EventKind} :
    EventKind.ofValue? v = some kind ↔ v.text? = some kind.text := by
  unfold EventKind.ofValue?
  constructor
  · intro h
    obtain ⟨t, ht, h⟩ := Option.bind_eq_some_iff.mp h
    have htext := List.find?_some h
    rw [ht, beq_iff_eq.mp htext]
  · intro h
    rw [h]
    cases kind <;> rfl

theorem unwrapLive_ok_iff {fields : Fields} :
    unwrapLive data = .ok (.object fields) ↔ Carries data fields := by
  constructor
  · intro h
    unfold unwrapLive at h
    split at h
    · split at h
      · next htopic =>
        exact .live htopic ⟨_, (field_object_ok_iff.mp h).1, rfl⟩
      · next htopic =>
        obtain rfl := Value.object.inj (Except.ok.inj h)
        exact .bare (by simpa using htopic)
    · next hobject =>
      obtain rfl := Except.ok.inj h
      exact absurd rfl (hobject fields)
  · rintro (htopic | ⟨htopic, _, hget, rfl⟩)
    · simp [unwrapLive, htopic]
    · simp [unwrapLive, htopic, field_object_ok_iff, hget]

theorem parseParticipant_ok_iff {p : Participant} :
    parseParticipant data = .ok p ↔ ∃ fields, data = .object fields ∧ p.IsReadFrom fields := by
  constructor
  · intro h
    obtain ⟨id, hid, h⟩ := bind_eq_ok.mp h
    obtain rfl := Except.ok.inj h
    obtain ⟨fields, rfl⟩ := exists_object_of_field hid
    exact ⟨fields, rfl, (field_holds_iff _).mp ⟨id, hid, rfl⟩, rfl, rfl, rfl⟩
  · rintro ⟨fields, rfl, hid, hname, hemail, havatar⟩
    obtain ⟨name, id, email, avatar⟩ := p
    obtain ⟨id, hget, rfl⟩ := (field_holds_iff "participant").mpr hid
    obtain rfl := hname
    obtain rfl := hemail
    obtain rfl := havatar
    rw [parseParticipant, hget, ok_bind]
    rfl

theorem parseAlternative_ok_iff : parseAlternative data = .ok v ↔ ReadsAlternative data v := by
  constructor
  · intro h
    obtain ⟨text, htext, h⟩ := bind_eq_ok.mp h
    obtain ⟨confidence, hconfidence, h⟩ := bind_eq_ok.mp h
    obtain rfl := Except.ok.inj h
    obtain ⟨fields, rfl⟩ := exists_object_of_field htext
    exact ⟨fields, _, rfl, rfl, (field_holds_iff _).mp ⟨text, htext, rfl⟩,
      number_ok_iff.mp hconfidence⟩
  · rintro ⟨fields, a, rfl, rfl, htext, hconfidence⟩
    obtain ⟨text, confidence⟩ := a
    obtain ⟨text, hget, rfl⟩ := (field_holds_iff "alternative").mpr htext
    rw [parseAlternative, hget, ok_bind, optional_object, number_ok_iff.mpr hconfidence]
    rfl

theorem parseResult_ok_iff {r : SpeechResult} :
    parseResult (.object fields) = .ok r ↔ r.IsReadFrom fields := by
  simp only [parseResult, bind_eq_ok, optional_object, array_ok_iff, number_ok_iff, mapM_eq_ok_iff,
    parseAlternative_ok_iff]
  constructor
  · rintro ⟨v, hv, items, hitems, alternatives, halternatives, id, hid, stability, hstability, h⟩
    obtain rfl := Except.ok.inj h
    obtain ⟨hget, hnull⟩ := field_object_ok_iff.mp hv
    cases hitems with
    | null => exact absurd rfl hnull
    | list =>
      exact ⟨⟨_, hget, _, rfl, halternatives⟩, rfl, rfl, (field_holds_iff _).mp ⟨id, hid, rfl⟩,
        hstability⟩
  · rintro ⟨⟨_, hget, items, rfl, halternatives⟩, hlanguage, hinterim, hid, hstability⟩
    obtain ⟨alternatives, language, isInterim, messageId, stability⟩ := r
    obtain ⟨id, hread, rfl⟩ := (field_holds_iff "SPEECH event").mpr hid
    obtain rfl := hlanguage
    obtain rfl := hinterim
    exact ⟨_, field_object_ok_iff.mpr ⟨hget, nofun⟩, items, .list items, _, halternatives, id,
      hread, _, hstability, rfl⟩

theorem parseOccurrence_ok_iff {kind : EventKind} {o : Occurrence} :
    parseOccurrence (.object fields) kind = .ok o ↔
      o.kind = kind ∧ ∀ r, o.result? = some r → r.IsReadFrom fields := by
  cases kind with
  | speech =>
    simp only [parseOccurrence, map_eq_ok, parseResult_ok_iff]
    cases o <;> simp [Occurrence.kind, Occurrence.result?]
  | join | leave | raiseHand =>
    cases o <;> simp [parseOccurrence, Occurrence.kind, Occurrence.result?]

theorem parseEvent_ok_iff {e : Event} :
    parseEvent data = .ok e ↔ ∃ fields, Carries data fields ∧ e.IsReadFrom fields := by
  constructor
  · intro h
    obtain ⟨payload, hpayload, h⟩ := bind_eq_ok.mp h
    obtain ⟨name, hname, h⟩ := bind_eq_ok.mp h
    obtain ⟨fields, rfl⟩ := exists_object_of_field hname
    split at h
    · next kind hkind =>
      simp only [bind_eq_ok, parseOccurrence_ok_iff, parseParticipant_ok_iff] at h
      obtain ⟨time, htime, d, hd, who, hwho, p, ⟨inner, rfl, hp⟩, o, ⟨rfl, ho⟩, h⟩ := h
      obtain rfl := Except.ok.inj h
      refine ⟨fields, unwrapLive_ok_iff.mp hpayload, ?_, ?_, ?_, ho⟩
      · exact ⟨name, (field_object_ok_iff.mp hname).1, ofValue?_eq_some_iff.mp hkind⟩
      · exact ⟨time, (field_object_ok_iff.mp htime).1, hd⟩
      · exact ⟨_, (field_object_ok_iff.mp hwho).1, inner, rfl, hp⟩
    · cases h
  · rintro ⟨fields, hcarries, ⟨name, hname, hkind⟩, ⟨time, htime, hd⟩,
      ⟨_, hwho, inner, rfl, hp⟩, ho⟩
    have hname := field_ok_of_get? "event" hname (by rintro rfl; exact nomatch hkind)
    have htime := field_ok_of_get? "event" htime (by rintro rfl; exact nomatch hd)
    have hwho := field_ok_of_get? "event" hwho nofun
    have hparticipant := parseParticipant_ok_iff.mpr ⟨inner, rfl, hp⟩
    have hoccurrence := parseOccurrence_ok_iff.mpr ⟨rfl, ho⟩
    simp only [parseEvent, unwrapLive_ok_iff.mpr hcarries, ok_bind, hname,
      ofValue?_eq_some_iff.mpr hkind, htime, hd, hwho, hparticipant]
    cases e
    rw [Event.kind, hoccurrence]
    rfl

theorem map_participant_ok_iff :
    Value.participant <$> parseParticipant data = .ok v ↔ ReadsParticipant data v := by
  simp only [map_eq_ok, parseParticipant_ok_iff, ReadsParticipant]
  constructor
  · rintro ⟨p, ⟨fields, rfl, hp⟩, rfl⟩
    exact ⟨fields, p, rfl, rfl, hp⟩
  · rintro ⟨fields, p, rfl, rfl, hp⟩
    exact ⟨p, ⟨fields, rfl, hp⟩, rfl⟩

theorem map_event_ok_iff : Value.event <$> parseEvent data = .ok v ↔ ReadsEvent data v := by
  simp only [map_eq_ok, parseEvent_ok_iff, ReadsEvent]
  constructor
  · rintro ⟨e, ⟨fields, hcarries, he⟩, rfl⟩
    exact ⟨fields, e, hcarries, rfl, he⟩
  · rintro ⟨fields, e, hcarries, rfl, he⟩
    exact ⟨e, ⟨fields, hcarries, he⟩, rfl⟩

theorem parseTranscript_ok_iff {t : Transcript} :
    parseTranscript data = .ok t ↔ ∃ fields, data = .object fields ∧ t.IsReadFrom fields := by
  constructor
  · intro h
    unfold parseTranscript at h
    split at h
    · next fields =>
      simp only [bind_eq_ok, optional_object, array_ok_iff, optionalTime_ok_iff, mapM_eq_ok_iff,
        map_participant_ok_iff, map_event_ok_iff] at h
      obtain ⟨participants, hparticipants, events, hevents, start, hstart, stop, hstop, initial,
        hinitial, occurred, hoccurred, h⟩ := h
      obtain rfl := Except.ok.inj h
      exact ⟨fields, rfl, rfl, hstart, hstop, ⟨_, hparticipants, hinitial⟩, _, hevents, hoccurred⟩
    · cases h
  · rintro ⟨fields, rfl, hroom, hstart, hstop, ⟨participants, hparticipants, hinitial⟩, events,
      hevents, hoccurred⟩
    obtain ⟨room, start, stop, initial, occurred⟩ := t
    obtain rfl := hroom
    simp only [parseTranscript, bind_eq_ok, optional_object, array_ok_iff, optionalTime_ok_iff,
      mapM_eq_ok_iff, map_participant_ok_iff, map_event_ok_iff]
    exact ⟨participants, hparticipants, events, hevents, _, hstart, _, hstop, _, hinitial, _,
      hoccurred, rfl⟩

end Decoding

section Acceptance

theorem exists_readsNumber_iff : (∃ w, ReadsNumber v w) ↔ IsOptionalNumber v := by
  constructor
  · rintro ⟨_, _ | x | @⟨n, x, hx⟩⟩
    · exact .inl rfl
    · exact .inr (.inl ⟨x, rfl⟩)
    · refine .inr (.inr ⟨n, rfl, ?_⟩)
      by_contra hlarge
      rw [Binary64.ofInt?_eq_none_iff.mpr (by omega)] at hx
      cases hx
  · rintro (rfl | ⟨x, rfl⟩ | ⟨n, rfl, hn⟩)
    · exact ⟨_, .null⟩
    · exact ⟨_, .float x⟩
    · cases hx : Binary64.ofInt? n with
      | none => exact absurd (Binary64.ofInt?_eq_none_iff.mp hx) (by omega)
      | some x => exact ⟨_, .int hx⟩

theorem exists_readsTime_iff : (∃ w, ReadsTime v w) ↔ IsOptionalTime v := by
  constructor
  · rintro ⟨_, h | h⟩
    · exact .inl h
    · exact .inr ⟨_, h⟩
  · rintro (h | ⟨d, h⟩)
    · exact ⟨_, .absent h⟩
    · exact ⟨_, .time h⟩

theorem exists_forall₂_iff {r : Value → Value → Prop} {items : List Value} :
    (∃ read, List.Forall₂ r items read) ↔ ∀ item ∈ items, ∃ w, r item w := by
  induction items with
  | nil => simp
  | cons item items ih =>
    rw [List.forall_mem_cons, ← ih]
    constructor
    · rintro ⟨_, h⟩
      obtain _ | ⟨hitem, hitems⟩ := h
      exact ⟨⟨_, hitem⟩, _, hitems⟩
    · rintro ⟨⟨w, hitem⟩, read, hitems⟩
      exact ⟨w :: read, .cons hitem hitems⟩

theorem exists_items_iff {r : Value → Value → Prop} {p : Value → Prop}
    (hr : ∀ item, (∃ w, r item w) ↔ p item) :
    (∃ read items, HasItems v items ∧ List.Forall₂ r items read) ↔ IsOptionalArrayOf p v := by
  constructor
  · rintro ⟨read, items, _ | _, hread⟩
    · exact .inl rfl
    · exact .inr ⟨items, rfl, fun item hitem =>
        (hr item).mp (exists_forall₂_iff.mp ⟨read, hread⟩ item hitem)⟩
  · rintro (rfl | ⟨items, rfl, hitems⟩)
    · exact ⟨[], [], .null, .nil⟩
    · obtain ⟨read, hread⟩ := exists_forall₂_iff.mpr fun item hitem =>
        (hr item).mpr (hitems item hitem)
      exact ⟨read, items, .list items, hread⟩

theorem exists_readsParticipant_iff : (∃ w, ReadsParticipant v w) ↔ IsParticipant v := by
  constructor
  · rintro ⟨_, fields, p, rfl, rfl, ⟨id, hid, hnull, -⟩, -⟩
    exact .object ⟨id, hid, hnull⟩
  · rintro ⟨id, hid, hnull⟩
    exact ⟨_, _, ⟨_, _, _, _⟩, rfl, rfl, ⟨id, hid, hnull, rfl⟩, rfl, rfl, rfl⟩

theorem exists_readsAlternative_iff : (∃ w, ReadsAlternative v w) ↔ IsAlternative v := by
  constructor
  · rintro ⟨_, fields, a, rfl, rfl, ⟨text, htext, hnull, -⟩, hconfidence⟩
    exact .object ⟨text, htext, hnull⟩
      ((Fields.mayHold_iff_valueAt (.inl rfl)).mpr (exists_readsNumber_iff.mp ⟨_, hconfidence⟩))
  · rintro ⟨⟨text, htext, hnull⟩, hconfidence⟩
    obtain ⟨confidence, hconfidence⟩ :=
      exists_readsNumber_iff.mpr ((Fields.mayHold_iff_valueAt (.inl rfl)).mp hconfidence)
    exact ⟨_, _, ⟨_, confidence⟩, rfl, rfl, ⟨text, htext, hnull, rfl⟩, hconfidence⟩

theorem exists_result_iff : (∃ r : SpeechResult, r.IsReadFrom fields) ↔ IsSpeech fields := by
  constructor
  · rintro ⟨r, ⟨_, htranscript, items, rfl, hread⟩, -, -, ⟨id, hid, hnull, -⟩, hstability⟩
    refine ⟨⟨_, htranscript, items, rfl, fun item hitem => ?_⟩, ⟨id, hid, hnull⟩, ?_⟩
    · exact exists_readsAlternative_iff.mp (exists_forall₂_iff.mp ⟨_, hread⟩ item hitem)
    · exact (Fields.mayHold_iff_valueAt (.inl rfl)).mpr (exists_readsNumber_iff.mp ⟨_, hstability⟩)
  · rintro ⟨⟨_, htranscript, items, rfl, hitems⟩, ⟨id, hid, hnull⟩, hstability⟩
    obtain ⟨alternatives, hread⟩ := exists_forall₂_iff.mpr fun item hitem =>
      exists_readsAlternative_iff.mpr (hitems item hitem)
    obtain ⟨stability, hstability⟩ :=
      exists_readsNumber_iff.mpr ((Fields.mayHold_iff_valueAt (.inl rfl)).mp hstability)
    exact ⟨⟨alternatives, _, _, _, stability⟩, ⟨_, htranscript, items, rfl, hread⟩, rfl, rfl,
      ⟨id, hid, hnull, rfl⟩, hstability⟩

theorem exists_occurrence (kind : EventKind) (h : kind = .speech → IsSpeech fields) :
    ∃ o : Occurrence, o.kind = kind ∧ ∀ r, o.result? = some r → r.IsReadFrom fields := by
  cases kind with
  | join => exact ⟨.join, rfl, nofun⟩
  | leave => exact ⟨.leave, rfl, nofun⟩
  | raiseHand => exact ⟨.raiseHand, rfl, nofun⟩
  | speech =>
    obtain ⟨r, hr⟩ := exists_result_iff.mpr (h rfl)
    refine ⟨.speech r, rfl, fun r' hr' => ?_⟩
    obtain rfl := Option.some.inj hr'
    exact hr

theorem exists_event_iff : (∃ e : Event, e.IsReadFrom fields) ↔ IsBareEvent fields := by
  constructor
  · rintro ⟨⟨time, p, o⟩, hkind, ⟨v, hv, htime⟩, ⟨who, hwho, inner, rfl, hp⟩, hresult⟩
    refine .intro hkind ⟨v, hv, _, htime⟩ ⟨_, hwho, ?_⟩ fun hspeech => ?_
    · exact exists_readsParticipant_iff.mp ⟨_, inner, p, rfl, rfl, hp⟩
    · cases o with
      | speech r => exact exists_result_iff.mp ⟨r, hresult r rfl⟩
      | _ => cases hspeech
  · rintro ⟨hkind, ⟨v, hv, time, htime⟩, ⟨who, hwho, hparticipant⟩, hspeech⟩
    obtain ⟨_, inner, p, rfl, rfl, hp⟩ := exists_readsParticipant_iff.mpr hparticipant
    obtain ⟨o, rfl, ho⟩ := exists_occurrence _ hspeech
    exact ⟨⟨time, p, o⟩, hkind, ⟨v, hv, htime⟩, ⟨_, hwho, inner, rfl, hp⟩, ho⟩

theorem exists_readsEvent_iff : (∃ w, ReadsEvent v w) ↔ IsEvent v := by
  simp only [IsEvent, ← exists_event_iff]
  constructor
  · rintro ⟨_, fields, e, hcarries, rfl, he⟩
    exact ⟨fields, hcarries, e, he⟩
  · rintro ⟨fields, hcarries, e, he⟩
    exact ⟨_, fields, e, hcarries, rfl, he⟩

theorem exists_transcript_iff :
    (∃ t : Transcript, t.IsReadFrom fields) ↔ IsTranscript (.object fields) := by
  have harray (p : Value → Prop) : IsOptionalArrayOf p .null := .inl rfl
  have htime : IsOptionalTime .null := .inl rfl
  constructor
  · rintro ⟨t, -, hstart, hstop, hinitial, hevents⟩
    refine .object ?_ ?_ ?_ ?_
    · exact (Fields.mayHold_iff_valueAt htime).mpr (exists_readsTime_iff.mp ⟨_, hstart⟩)
    · exact (Fields.mayHold_iff_valueAt htime).mpr (exists_readsTime_iff.mp ⟨_, hstop⟩)
    · exact (Fields.mayHold_iff_valueAt (harray _)).mpr
        ((exists_items_iff fun _ => exists_readsParticipant_iff).mp ⟨_, hinitial⟩)
    · exact (Fields.mayHold_iff_valueAt (harray _)).mpr
        ((exists_items_iff fun _ => exists_readsEvent_iff).mp ⟨_, hevents⟩)
  · rintro ⟨hstart, hstop, hinitial, hevents⟩
    obtain ⟨start, hstart⟩ :=
      exists_readsTime_iff.mpr ((Fields.mayHold_iff_valueAt htime).mp hstart)
    obtain ⟨stop, hstop⟩ := exists_readsTime_iff.mpr ((Fields.mayHold_iff_valueAt htime).mp hstop)
    obtain ⟨initial, hinitial⟩ := (exists_items_iff fun _ => exists_readsParticipant_iff).mpr
      ((Fields.mayHold_iff_valueAt (harray _)).mp hinitial)
    obtain ⟨events, hevents⟩ := (exists_items_iff fun _ => exists_readsEvent_iff).mpr
      ((Fields.mayHold_iff_valueAt (harray _)).mp hevents)
    exact ⟨⟨_, start, stop, initial, events⟩, rfl, hstart, hstop, hinitial, hevents⟩

end Acceptance

/-- Decoding accepts what follows the grammar, and nothing else. What it answers is read from the
value part by part: participants, events and interpretations one from each item, in order. -/
theorem parseTranscript_accepts (data : Value) :
    ((∃ t, parseTranscript data = .ok t) ↔ IsTranscript data) ∧
    ∀ t, parseTranscript data = .ok t ↔ ∃ fields, data = .object fields ∧ t.IsReadFrom fields := by
  refine ⟨?_, fun _ => parseTranscript_ok_iff⟩
  simp only [parseTranscript_ok_iff]
  constructor
  · rintro ⟨t, fields, rfl, ht⟩
    exact exists_transcript_iff.mp ⟨t, ht⟩
  · intro h
    have ⟨fields, hdata⟩ : ∃ fields, data = .object fields := by
      cases h
      exact ⟨_, rfl⟩
    obtain ⟨t, ht⟩ := exists_transcript_iff.mpr (hdata ▸ h)
    exact ⟨t, fields, hdata, ht⟩

end Wire.Input

end Proceedings
