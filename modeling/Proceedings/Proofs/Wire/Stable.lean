import Proceedings.Proofs.Json.Written
import Proceedings.Proofs.Wire.Artifact
import Proceedings.Proofs.Wire.Input
import Proceedings.Proofs.Wire.Normal

/-! # Artifacts of decoded payloads

What is decoded from any payload is in normal form as soon as it has an artifact. So the artifact,
written and read back, is decoded as the same transcript and written as the same text.
-/

namespace Proceedings

open Wire

section Normal

variable {fields : Fields} {name : String} {v : Value}

theorem Value.orElse_str_ne_null (v : Value) : v.orElse (.str "") ≠ .null := by
  unfold Value.orElse
  split
  · rintro rfl
    contradiction
  · nofun

/-- A value that is null in place of any that counts as absent is a text or null, if the schema
admits it where it is not left out. -/
theorem Wire.optionalText_of_admitted {w : Value} (hw : w = v.orElse .null) (hjson : w.IsJson)
    (hget : fields.get? (key name) = if isAbsent w = false then some w else none)
    (hvalid : fields.MayHold name Value.IsNonEmptyString) :
    w.IsOptionalText ∧ w.nullIfEmpty = w := by
  unfold Value.orElse at hw
  split at hw
  · next htruthy =>
    subst hw
    have habsent : isAbsent w = false := by cases w <;> simp_all [isAbsent, Value.isTruthy]
    rw [if_pos habsent] at hget
    obtain ⟨t, ht, hnil⟩ := hvalid w hget
    obtain rfl := hjson.eq_text ht
    refine ⟨.inr ⟨t, rfl⟩, ?_⟩
    cases t with
    | nil => exact absurd rfl hnil
    | cons => rfl
  · subst hw
    exact ⟨.inl rfl, rfl⟩

theorem Participant.IsReadFrom.isNormal {p : Participant} (hread : p.IsReadFrom fields)
    (hjson : p.HoldsJson) (hvalid : Grammar.IsParticipant (.object p.fields)) :
    p.IsDeclared ∧ p.normal = p := by
  -- Decoding makes a text of the id alone: that the others are texts is known from the schema.
  obtain ⟨-, ⟨v, hget, t, ht⟩, -, email, avatar⟩ := hvalid
  obtain ⟨-, gname, gemail, gavatar⟩ := get?_participant p
  obtain ⟨_, -, -, hid⟩ := hread.id
  have hname : orEmptyText p.name = p.name := by
    have hnull : p.name ≠ .null := hread.name ▸ Value.orElse_str_ne_null _
    unfold orEmptyText
    rw [if_neg]
    cases h : p.name <;> simp_all [Value.isNull]
  obtain rfl := Option.some.inj (gname.symm.trans hget)
  rw [hname] at ht
  have htext := hjson.name.eq_text ht
  obtain ⟨hemail, hemailNull⟩ := optionalText_of_admitted hread.email hjson.email gemail email
  obtain ⟨havatar, havatarNull⟩ :=
    optionalText_of_admitted hread.avatarUrl hjson.avatarUrl gavatar avatar
  refine ⟨⟨.inr ⟨t, htext⟩, .inr ⟨_, hid⟩, hemail, havatar⟩, ?_⟩
  rw [Participant.normal, hname, hemailNull, havatarNull]
  cases p
  rfl

theorem Wire.Input.ReadsNumber.isFloat {w : Value} (h : Input.ReadsNumber v w) : w.IsFloat := by
  cases h <;> exact ⟨_, rfl⟩

theorem SpeechResult.IsReadFrom.isNormal {r : SpeechResult} (hread : r.IsReadFrom fields) :
    r.IsDeclared Value.IsFloat ∧ r.normal = r := by
  obtain ⟨⟨_, -, items, rfl, halternatives⟩, hlanguage, hinterim, ⟨_, -, -, hmessage⟩,
    hstability⟩ := hread
  refine ⟨⟨fun v hv => ?_, .inr ⟨_, hlanguage⟩, .inr (.inl ⟨_, hmessage⟩), hstability.isFloat⟩, ?_⟩
  · obtain ⟨_, -, fields, a, rfl, rfl, ⟨⟨_, -, -, htext⟩, hconfidence⟩⟩ :=
      exists_of_mem_forall₂ halternatives hv
    exact ⟨a, rfl, ⟨_, htext⟩, hconfidence.isFloat⟩
  · rw [SpeechResult.normal, hlanguage, hinterim, hmessage]
    cases r
    simp_all [orEmptyText, Value.isNull, Value.isTruthy, Value.toText]

theorem Occurrence.normal_eq {o : Occurrence} (h : ∀ r, o.result? = some r → r.normal = r) :
    o.normal = o := by
  cases o with
  | speech r => exact congrArg Occurrence.speech (h r rfl)
  | join | leave | raiseHand => rfl

theorem Event.IsReadFrom.isNormal {e : Event} (hread : e.IsReadFrom fields) (hjson : e.HoldsJson)
    (hvalid : Grammar.IsEvent (.object e.fields)) :
    e.IsDeclared Value.IsFloat ∧ e.normal = e := by
  obtain ⟨-, -, gwho⟩ := get?_event e
  obtain ⟨_, -, hparse⟩ := hread.timestamp
  obtain ⟨_, -, inner, -, hwho⟩ := hread.participant
  have hparticipant : Grammar.IsParticipant (.object e.participant.fields) := by
    obtain ⟨kind, description⟩ : ∃ kind, Grammar.IsDescription kind e.fields := by
      cases hvalid <;> exact ⟨_, ‹_›⟩
    obtain ⟨v, hget, hv⟩ := description.participant
    exact Option.some.inj (gwho.symm.trans hget) ▸ hv
  obtain ⟨hdeclared, hnormal⟩ := hwho.isNormal hjson.participant hparticipant
  refine ⟨⟨hdeclared, fun r hr => (hread.result r hr).isNormal.1⟩, ?_⟩
  have hoccurrence := Occurrence.normal_eq fun r hr => (hread.result r hr).isNormal.2
  rw [Event.normal, (parseInstant_eq_ok hparse).2, hnormal, hoccurrence]
  cases e
  rfl

theorem Wire.Input.ReadsTime.isOptionalTime {w : Value} (h : Input.ReadsTime v w) :
    w.IsOptionalTime ∧ w.inUtc = w := by
  cases h with
  | absent => exact ⟨.inl rfl, rfl⟩
  | time h => exact ⟨.inr ⟨_, rfl⟩, congrArg Value.time (parseInstant_eq_ok h).2⟩

theorem Value.map_normal_eq_iff {items : List Value} :
    items.map Value.normal = items ↔ ∀ v ∈ items, v.normal = v := by
  simpa using List.map_inj_left (l := items) (f := Value.normal) (g := id)

theorem Transcript.IsReadFrom.participant_isNormal {t : Transcript} {v : Value}
    (hread : t.IsReadFrom fields) (hjson : t.HoldsJson)
    (hvalid : Fields.MayHold t.fields "initial_participants"
      (Value.IsFilledArrayOf Grammar.IsParticipant)) (hv : v ∈ t.initialParticipants) :
    ∃ p, v = .participant p ∧ p.IsDeclared ∧ p.normal = p := by
  obtain ⟨-, -, -, ginitial, -⟩ := get?_transcript t
  obtain ⟨items, -, hitems⟩ := hread.initialParticipants
  obtain ⟨_, -, fields, p, -, rfl, hp⟩ := exists_of_mem_forall₂ hitems hv
  obtain ⟨_, hq, hholds⟩ := hjson.initialParticipants _ hv
  obtain rfl := Value.participant.inj hq
  have hvalid := forall_of_filled ginitial hvalid _ (List.mem_map_of_mem hv)
  exact ⟨p, rfl, hp.isNormal hholds hvalid⟩

theorem Transcript.IsReadFrom.event_isNormal {t : Transcript} {v : Value}
    (hread : t.IsReadFrom fields) (hjson : t.HoldsJson)
    (hvalid : Fields.MayHold t.fields "events" (Value.IsFilledArrayOf Grammar.IsEvent))
    (hv : v ∈ t.events) :
    ∃ e, v = .event e ∧ e.IsDeclared Value.IsFloat ∧ e.normal = e := by
  obtain ⟨-, -, -, -, gevents⟩ := get?_transcript t
  obtain ⟨items, -, hitems⟩ := hread.events
  obtain ⟨_, -, fields, e, -, rfl, he⟩ := exists_of_mem_forall₂ hitems hv
  obtain ⟨_, hf, hholds⟩ := hjson.events _ hv
  obtain rfl := Value.event.inj hf
  have hvalid := forall_of_filled gevents hvalid _ (List.mem_map_of_mem hv)
  exact ⟨e, rfl, he.isNormal hholds hvalid⟩

/-- A decoded transcript whose payload is an artifact is in normal form, its fields of their
declared types. -/
theorem Transcript.IsReadFrom.isNormal {t : Transcript} (hread : t.IsReadFrom fields)
    (hjson : t.HoldsJson) (hvalid : Grammar.IsArtifact (.object t.fields)) :
    t.IsDeclared Value.IsFloat ∧ t.normal = t := by
  obtain ⟨-, roomName, -, -, initialParticipants, events⟩ := hvalid
  obtain ⟨groom, -, -, -, -⟩ := get?_transcript t
  obtain ⟨hroom, hroomNull⟩ :=
    optionalText_of_admitted hread.roomName hjson.roomName groom roomName
  obtain ⟨hstart, hstartUtc⟩ := hread.startTime.isOptionalTime
  obtain ⟨hstop, hstopUtc⟩ := hread.endTime.isOptionalTime
  have hinitial := fun v (hv : v ∈ t.initialParticipants) =>
    hread.participant_isNormal hjson initialParticipants hv
  have hevents := fun v (hv : v ∈ t.events) => hread.event_isNormal hjson events hv
  refine ⟨⟨hroom, hstart, hstop, fun v hv => ?_, fun v hv => ?_⟩, ?_⟩
  · obtain ⟨p, rfl, hp, -⟩ := hinitial v hv
    exact ⟨p, rfl, hp⟩
  · obtain ⟨e, rfl, he, -⟩ := hevents v hv
    exact ⟨e, rfl, he⟩
  · have hinitialNormal : t.initialParticipants.map Value.normal = t.initialParticipants := by
      refine Value.map_normal_eq_iff.mpr fun v hv => ?_
      obtain ⟨p, rfl, -, hp⟩ := hinitial v hv
      exact congrArg Value.participant hp
    have heventsNormal : t.events.map Value.normal = t.events := by
      refine Value.map_normal_eq_iff.mpr fun v hv => ?_
      obtain ⟨e, rfl, -, he⟩ := hevents v hv
      exact congrArg Value.event he
    rw [Transcript.normal, hroomNull, hstartUtc, hstopUtc, hinitialNormal, heventsNormal]
    cases t
    rfl

end Normal

section Spellable

variable {fields : Fields} {name : String} {v : Value} {names : List (String × Value)}

theorem Value.IsOptionalText.isSpellable (h : v.IsOptionalText) : v.IsSpellable names := by
  rcases h with rfl | ⟨t, rfl⟩
  · exact .null
  · exact .text t

theorem Participant.IsDeclared.isSpellable {p : Participant} (h : p.IsDeclared) :
    (Value.object p.fields).IsSpellable names := by
  refine .object ((keys_participant p).nodup (by simp)) ?_
  refine List.forall_mem_append.mpr ⟨List.forall_mem_append.mpr ⟨?_, ?_⟩, ?_⟩
  · simp [h.name.orEmptyText.isSpellable, h.id.isSpellable]
  · exact forall_present _ h.email.isSpellable
  · exact forall_present _ h.avatarUrl.isSpellable

section

variable {number : Value → Prop} (hnumber : ∀ v, number v → v.IsSpellable names)

include hnumber

theorem Alternative.IsDeclared.isSpellable {a : Alternative} (h : a.IsDeclared number) :
    (Value.object a.fields).IsSpellable names := by
  obtain ⟨t, ht⟩ := h.text
  refine .object (by simp [Alternative.fields]) ?_
  simp [Alternative.fields, ht, Value.IsSpellable.text, hnumber _ h.confidence]

theorem SpeechResult.IsDeclared.isSpellable {r : SpeechResult} (h : r.IsDeclared number) :
    ∀ f ∈ r.fields, f.2.IsSpellable names := by
  have halternatives : (Value.list (r.alternatives.map Value.alternativePayload)).IsSpellable
      names := by
    refine .list fun w hw => ?_
    obtain ⟨v, hv, rfl⟩ := List.mem_map.mp hw
    obtain ⟨a, rfl, ha⟩ := h.alternatives v hv
    exact ha.isSpellable hnumber
  simp [SpeechResult.fields, halternatives, h.language.orEmptyText.isSpellable,
    Value.IsSpellable.text, Value.IsSpellable.bool, hnumber _ h.stability]

theorem Event.IsDeclared.isSpellable {e : Event} (h : e.IsDeclared number) :
    (Value.object e.fields).IsSpellable names := by
  have hparticipant : (Value.object e.participant.fields).IsSpellable names :=
    h.participant.isSpellable
  refine .object ((keys_event e).nodup (by simp [speechKeys]))
    (List.forall_mem_append.mpr ⟨?_, ?_⟩)
  · simp [Event.description, Value.IsSpellable.text, hparticipant]
  · cases hr : e.occurrence.result? with
    | none => exact List.forall_mem_nil _
    | some r => exact (h.result r hr).isSpellable hnumber

theorem Transcript.IsDeclared.isSpellable {t : Transcript} (h : t.IsDeclared number) :
    (Value.object t.fields).IsSpellable names := by
  have hinitial : (Value.list (t.initialParticipants.map Value.participantPayload)).IsSpellable
      names := by
    refine .list fun w hw => ?_
    obtain ⟨v, hv, rfl⟩ := List.mem_map.mp hw
    obtain ⟨p, rfl, hp⟩ := h.initialParticipants v hv
    exact hp.isSpellable
  have hevents : (Value.list (t.events.map Value.eventPayload)).IsSpellable names := by
    refine .list fun w hw => ?_
    obtain ⟨v, hv, rfl⟩ := List.mem_map.mp hw
    obtain ⟨e, rfl, he⟩ := h.events v hv
    exact he.isSpellable hnumber
  refine .object ((keys_transcript t).nodup (by simp)) ?_
  simp only [Transcript.fields, List.forall_mem_append]
  exact ⟨⟨⟨⟨forall_present _ h.roomName.isSpellable, forall_timeField .text _ _⟩,
    forall_timeField .text _ _⟩, forall_present _ hinitial⟩, forall_present _ hevents⟩

end

end Spellable

section Equality

variable {v : Value}

/-- A result with a confidence or a stability that is not a number. -/
def SpeechResult.HasNan (r : SpeechResult) : Prop :=
  r.stability = .float .nan ∨ ∃ a, .alternative a ∈ r.alternatives ∧ a.confidence = .float .nan

def Transcript.HasNan (t : Transcript) : Prop :=
  ∃ e r, .event e ∈ t.events ∧ e.occurrence.result? = some r ∧ r.HasNan

theorem Value.equalItems_self {items : List Value} (h : ∀ v ∈ items, v.equals v = true) :
    Value.equalItems items items = true := by
  induction items with
  | nil => simp [Value.equalItems]
  | cons v items ih =>
    obtain ⟨hv, hitems⟩ := List.forall_mem_cons.mp h
    rw [Value.equalItems, hv, ih hitems, Bool.and_self]

theorem DateTime.equals_self (d : DateTime) : d.equals d = true := by
  unfold DateTime.equals
  cases h : d.place with
  | none => cases d.instant? <;> simp [sharesZone, isAmbiguous, h]
  | some p => simp [sharesZone, h]

theorem Value.IsOptionalText.equals_self (h : v.IsOptionalText) : v.equals v = true := by
  rcases h with rfl | ⟨t, rfl⟩
  · simp [Value.equals, Value.isNull]
  · simp [Value.equals, Value.text?]

theorem Value.IsOptionalTime.equals_self (h : v.IsOptionalTime) : v.equals v = true := by
  rcases h with rfl | ⟨d, rfl⟩
  · simp [Value.equals, Value.isNull]
  · simp [Value.equals, DateTime.equals_self]

theorem Value.IsFloat.equals_self (h : v.IsFloat) (hnan : v ≠ .float .nan) :
    v.equals v = true := by
  obtain ⟨x, rfl⟩ := h
  cases x with
  | nan => exact absurd rfl hnan
  | infinite | finite => simp [Value.equals, Binary64.equals]

theorem Participant.IsDeclared.equals_self {p : Participant} (h : p.IsDeclared) :
    p.equals p = true := by
  have hname := h.name.equals_self
  have hid := h.id.equals_self
  have hemail := h.email.equals_self
  have havatar := h.avatarUrl.equals_self
  cases p
  simp_all [Participant.equals]

theorem SpeechResult.IsDeclared.equals_self {r : SpeechResult}
    (hdeclared : r.IsDeclared Value.IsFloat) (hread : r.normal = r) (hnan : ¬ r.HasNan) :
    r.equals r = true := by
  have halternatives : Value.equalItems r.alternatives r.alternatives = true := by
    refine Value.equalItems_self fun v hv => ?_
    obtain ⟨a, rfl, ⟨t, ht⟩, hconfidence⟩ := hdeclared.alternatives v hv
    have htext := Value.IsOptionalText.equals_self (.inr ⟨t, ht⟩)
    have hnumber := hconfidence.equals_self fun h => hnan (.inr ⟨a, hv, h⟩)
    cases a
    simp_all [Value.equals, Alternative.equals]
  have hlanguage := hdeclared.language.equals_self
  have hstability := hdeclared.stability.equals_self fun h => hnan (.inl h)
  have hinterim : r.isInterim.equals r.isInterim = true := by
    rw [← hread]
    simp [SpeechResult.normal, Value.equals, Value.equals.equalsInt]
  have hmessage : r.messageId.equals r.messageId = true := by
    rw [← hread]
    simp [SpeechResult.normal, Value.equals, Value.text?]
  cases r
  simp_all [SpeechResult.equals]

theorem Event.IsDeclared.equals_self {e : Event} (hdeclared : e.IsDeclared Value.IsFloat)
    (hread : e.normal = e) (hnan : ∀ r, e.occurrence.result? = some r → ¬ r.HasNan) :
    e.equals e = true := by
  have hparticipant := hdeclared.participant.equals_self
  have hoccurrence : e.occurrence.equals e.occurrence = true := by
    have hnormal : e.occurrence.normal = e.occurrence := congrArg Event.occurrence hread
    cases h : e.occurrence with
    | speech r =>
      have hr : e.occurrence.result? = some r := by
        rw [h]
        rfl
      rw [h] at hnormal
      simpa [Occurrence.equals] using
        (hdeclared.result r hr).equals_self (Occurrence.speech.inj hnormal) (hnan r hr)
    | join | leave | raiseHand => simp [Occurrence.equals, Occurrence.kind]
  cases e
  simp_all [Event.equals, DateTime.equals_self]

theorem Transcript.IsDeclared.equals_self {t : Transcript}
    (hdeclared : t.IsDeclared Value.IsFloat) (hread : t.normal = t) (hnan : ¬ t.HasNan) :
    t.equals t = true := by
  have hroom := hdeclared.roomName.equals_self
  have hstart := hdeclared.startTime.equals_self
  have hstop := hdeclared.endTime.equals_self
  have hinitial : Value.equalItems t.initialParticipants t.initialParticipants = true := by
    refine Value.equalItems_self fun v hv => ?_
    obtain ⟨p, rfl, hp⟩ := hdeclared.initialParticipants v hv
    simpa [Value.equals] using hp.equals_self
  have hevents : Value.equalItems t.events t.events = true := by
    refine Value.equalItems_self fun v hv => ?_
    obtain ⟨e, rfl, he⟩ := hdeclared.events v hv
    have hlist : t.events.map Value.normal = t.events := congrArg Transcript.events hread
    have hnormal : e.normal = e := Value.event.inj (Value.map_normal_eq_iff.mp hlist _ hv)
    simpa [Value.equals] using he.equals_self hnormal fun r hr h => hnan ⟨e, r, hv, hr, h⟩
  cases t
  simp_all [Transcript.equals]

end Equality

/-- One pass brings whatever has an artifact into its normal form: the artifact's text is read back
and decoded as the same transcript, which has the same artifact with the same text. The transcripts
are equal unless a confidence or a stability is not a number, which equals nothing. -/
theorem reformat_stable {d payload : Value} {t : Transcript} (hd : d.IsJson)
    (hparse : parseTranscript d = .ok t)
    (hformat : formatTranscript (.transcript t) = .ok payload) :
    ∃ text read again artifact, serialize payload = .ok text ∧ Json.read text = .ok read ∧
      parseTranscript read = .ok again ∧ formatTranscript (.transcript again) = .ok artifact ∧
      serialize artifact = .ok text ∧ again = t ∧ (¬ t.HasNan → t.equals again = true) := by
  obtain ⟨fields, -, hread⟩ := Input.parseTranscript_ok_iff.mp hparse
  have hjson := holdsJson_parseTranscript hd hparse
  obtain ⟨hencode, hvalid⟩ := formatTranscript_eq_ok.mp hformat
  obtain ⟨-, hencodable, rfl⟩ := encodeTranscript_spec hencode
  obtain ⟨hdeclared, hnormal⟩ := hread.isNormal hjson (Grammar.isArtifact_of_valid hvalid)
  have hfloat (v : Value) (hv : v.IsFloat) : v.IsSpellable Json.words := by
    obtain ⟨x, rfl⟩ := hv
    exact Json.isSpellable_float x
  obtain ⟨text, htext, hback⟩ := (hdeclared.isSpellable hfloat).exists_text
  -- What is decoded is the normal form of the transcript, which it is already.
  have hagain : parseTranscript (.object t.fields) = .ok t := by
    rw [parseTranscript_fields hdeclared hencodable, hnormal]
  exact ⟨text, _, t, _, htext, hback, hagain, hformat, htext, rfl,
    hdeclared.equals_self hnormal⟩

namespace Wire

def speaker : Fields := [(key "id", .int 7), (key "name", .null), (key "email", .str "")]

/-- Speech ahead of UTC, with numbers for texts, a key that is not known and gaps. -/
def bulletin : Fields :=
  [(key "event", .str "SPEECH"), (key "timestamp", .str "2024-12-07T22:00:00.500+03:00"),
    (key "participant", .object speaker),
    (key "transcript", .list [.object [(key "text", .int 5), (key "confidence", .int 1)]]),
    (key "message_id", .int 12), (key "is_interim", .str "yes"), (key "stability", .null),
    (key "volume", .list [])]

def dispatch : Fields :=
  [(key "note", .bool true), (key "room_name", .str "lobby"), (key "start_time", .str ""),
    (key "end_time", .null), (key "events", .list [wrapLive (.object bulletin)])]

def evening : DateTime :=
  ⟨⟨63869205600500000, by decide⟩, some ⟨10800000000, by decide, by decide⟩, none⟩

def announcement : Event :=
  ⟨evening.utc, ⟨.str "", .str "7", .null, .null⟩,
    .speech ⟨[.alternative ⟨.str "5", .float (.ofRank false 4607182418800017408)⟩], .str "",
      .bool true, .str "12", .float .zero⟩⟩

def dispatched : Transcript := ⟨.str "lobby", .null, .null, [], [.event announcement]⟩

theorem parseInstant_evening :
    parseInstant (.str "2024-12-07T22:00:00.500+03:00") = .ok evening.utc := by
  have hspelled : spelledOut (Text.ofString "2024-12-07T22:00:00.500+03:00") =
      Text.ofChars (evening.secondsChars 'T' ++ evening.fractionChars ++
        (Offset.mk 10800000000 (by decide) (by decide)).chars) := by cbv
  have hread : Iso.read (spelledOut (Text.ofString "2024-12-07T22:00:00.500+03:00")) =
      .ok evening := by
    rw [hspelled]
    exact Iso.read_written evening 'T' (Iso.isFraction_fractionChars evening) _ (by decide)
  have hutc : evening.HasUtc := DateTime.hasUtc_iff.mpr ⟨_, rfl, by decide⟩
  have htext : parseInstant (.str "2024-12-07T22:00:00.500+03:00") =
      parseText (.str "2024-12-07T22:00:00.500+03:00")
        (Text.ofString "2024-12-07T22:00:00.500+03:00") := rfl
  rw [htext, parseText, hread]
  exact toUtc_of_hasUtc hutc _

theorem announcement_isReadFrom : announcement.IsReadFrom bulletin := by
  have hnumber : Binary64.ofInt? 1 = some (.ofRank false 4607182418800017408) := by decide +kernel
  refine ⟨⟨_, rfl, rfl⟩, ⟨_, rfl, parseInstant_evening⟩, ⟨_, rfl, speaker, rfl, ?_⟩, fun r hr => ?_⟩
  · exact ⟨⟨_, rfl, nofun, rfl⟩, rfl, rfl, rfl⟩
  · obtain rfl := Option.some.inj hr
    refine ⟨⟨_, rfl, _, rfl, .cons ?_ .nil⟩, rfl, rfl, ⟨_, rfl, nofun, rfl⟩, .null⟩
    exact ⟨_, _, rfl, rfl, ⟨_, rfl, nofun, rfl⟩, .int hnumber⟩

theorem parse_dispatch : parseTranscript (.object dispatch) = .ok dispatched := by
  refine Input.parseTranscript_ok_iff.mpr ⟨dispatch, rfl, rfl, .absent rfl, .absent rfl,
    ⟨[], .null, .nil⟩, [wrapLive (.object bulletin)], .list _, .cons ?_ .nil⟩
  exact ⟨bulletin, announcement, .live rfl ⟨_, rfl, rfl⟩, rfl, announcement_isReadFrom⟩

theorem isJson_dispatch : (Value.object dispatch).IsJson := by
  have hspeaker : (Value.object speaker).IsJson :=
    .object (by simp [speaker, Value.IsJson.int, Value.IsJson.null, Value.isJson_str])
  have hheard : (Value.object [(key "text", .int 5), (key "confidence", .int 1)]).IsJson :=
    .object (by simp [Value.IsJson.int])
  have hlist : (Value.list [.object [(key "text", .int 5), (key "confidence", .int 1)]]).IsJson :=
    .list (List.forall_mem_singleton.mpr hheard)
  have hempty : (Value.list []).IsJson := .list (List.forall_mem_nil _)
  have hbulletin : (Value.object bulletin).IsJson :=
    .object (by simp [bulletin, Value.isJson_str, Value.IsJson.int, Value.IsJson.null,
      hspeaker, hlist, hempty])
  have hlive : (wrapLive (.object bulletin)).IsJson :=
    .object (by simp [topic, Value.isJson_str, hbulletin])
  have hevents : (Value.list [wrapLive (.object bulletin)]).IsJson :=
    .list (List.forall_mem_singleton.mpr hlive)
  exact .object (by simp [dispatch, Value.isJson_str, Value.IsJson.bool,
    Value.IsJson.null, hevents])

theorem reformat_stable_dispatch :
    ∃ t payload, parseTranscript (.object dispatch) = .ok t ∧
      formatTranscript (.transcript t) = .ok payload ∧
      ∃ text read again artifact, serialize payload = .ok text ∧ Json.read text = .ok read ∧
        parseTranscript read = .ok again ∧ formatTranscript (.transcript again) = .ok artifact ∧
        serialize artifact = .ok text ∧ again = t ∧ (¬ t.HasNan → t.equals again = true) := by
  have hformat : formatTranscript (.transcript dispatched) = .ok (.object dispatched.fields) := by
    cbv
  exact ⟨dispatched, _, parse_dispatch, hformat,
    reformat_stable isJson_dispatch parse_dispatch hformat⟩

end Wire

end Proceedings
