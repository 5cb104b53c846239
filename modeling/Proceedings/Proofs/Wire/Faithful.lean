import Proceedings.Proofs.Wire.Expressible
import Proceedings.Proofs.Wire.Input
import Proceedings.Proofs.Wire.Normal

/-! # Artifacts that decoding keeps

An artifact is encoded as it was decoded, but for the order of its keys, if its times are written as
encoding writes them, its numbers are binary, its message ids are not empty, and its events have no
further keys.
-/

namespace Proceedings

open Wire

namespace Value

/-- The same values at every depth: arrays in the same order, objects in any order of their keys. -/
inductive Alike : Value → Value → Prop
  | same (v : Value) : Alike v v
  | list {items others : List Value} (h : List.Forall₂ Alike items others) :
      Alike (.list items) (.list others)
  | object {fields others : Fields}
      (h : ∀ k, Option.Rel Alike (fields.get? k) (others.get? k)) :
      Alike (.object fields) (.object others)

variable {fields others : Fields}

theorem rel_of_eq {a b : Option Value} (h : a = b) : Option.Rel Alike a b := by
  subst h
  cases a with
  | none => exact .none
  | some v => exact .some (.same v)

theorem Alike.of_within {names : List String} (hfields : fields.Within names)
    (hothers : others.Within names)
    (h : ∀ name ∈ names, Option.Rel Alike (fields.get? (key name)) (others.get? (key name))) :
    (Value.object fields).Alike (.object others) := by
  refine .object fun k => ?_
  by_cases hk : k ∈ names.map key
  · obtain ⟨name, hname, rfl⟩ := List.mem_map.mp hk
    exact h name hname
  · rw [hfields.get?_of_not_mem hk, hothers.get?_of_not_mem hk]
    exact .none

end Value

namespace Wire

open Value (rel_of_eq)

/-- A text that encoding writes for a time. -/
def IsWrittenTime (v : Value) : Prop := ∃ d t, formatInstant d = .ok t ∧ v = .text t

def EachObject (p : Fields → Prop) (v : Value) : Prop :=
  ∀ items, v = .list items → ∀ fields, .object fields ∈ items → p fields

structure IsExactEvent (fields : Fields) : Prop where
  keys : fields.Within (["event", "timestamp", "participant"] ++ speechKeys)
  timestamp : fields.MayHold "timestamp" IsWrittenTime
  confidence : fields.MayHold "transcript"
    (EachObject fun inner => inner.MayHold "confidence" Value.IsFloat)
  messageId : fields.MayHold "message_id" (· ≠ .text [])
  stability : fields.MayHold "stability" Value.IsFloat

/-- An artifact with times and events as encoding would write them. -/
structure IsExact (fields : Fields) : Prop where
  startTime : fields.MayHold "start_time" IsWrittenTime
  endTime : fields.MayHold "end_time" IsWrittenTime
  events : fields.MayHold "events" (EachObject IsExactEvent)

variable {fields : Fields} {name : String} {v : Value}

section Parts

theorem get?_of_isString (hjson : (Value.object fields).IsJson)
    (h : fields.Holds name Value.IsString) : ∃ t, fields.get? (key name) = some (.text t) := by
  obtain ⟨v, hget, t, ht⟩ := h
  obtain rfl := (isJson_get? hjson hget).eq_text ht
  exact ⟨t, hget⟩

theorem get?_of_isNonEmptyString (hjson : (Value.object fields).IsJson)
    (h : fields.MayHold name Value.IsNonEmptyString) :
    fields.get? (key name) = none ∨ ∃ t, t ≠ [] ∧ fields.get? (key name) = some (.text t) := by
  cases hget : fields.get? (key name) with
  | none => exact .inl rfl
  | some v =>
    obtain ⟨t, ht, hnil⟩ := h v hget
    obtain rfl := (isJson_get? hjson hget).eq_text ht
    exact .inr ⟨t, hnil, rfl⟩

theorem optionalText_spec (hjson : (Value.object fields).IsJson)
    (h : fields.MayHold name Value.IsNonEmptyString) :
    ((fields.valueAt name).orElse .null).IsOptionalText ∧
      (present name ((fields.valueAt name).orElse .null)).get? (key name) =
        fields.get? (key name) := by
  unfold Fields.valueAt
  rcases get?_of_isNonEmptyString hjson h with hget | ⟨t, hnil, hget⟩
  · rw [hget]
    exact ⟨.inl rfl, rfl⟩
  · rw [hget]
    have htext : (Value.text t).orElse .null = .text t := by
      simp [Value.orElse, Value.isTruthy, hnil]
    rw [Value.ofOption, htext]
    exact ⟨.inr ⟨t, rfl⟩, by simp [get?_present, isAbsent, hnil]⟩

theorem orElse_emptyText (t : Text) : (Value.text t).orElse (.str "") = .text t := by
  cases t <;> rfl

theorem exists_participant (hjson : (Value.object fields).IsJson)
    (h : Grammar.IsParticipant (.object fields)) :
    ∃ p : Participant, p.IsReadFrom fields ∧ p.IsDeclared ∧ p.id.IsPresent ∧
      (Value.object p.fields).Alike (.object fields) := by
  obtain ⟨keys, name, id, email, avatar⟩ := h
  obtain ⟨n, hname⟩ := get?_of_isString hjson name
  obtain ⟨v, hid, i, hi, hnil⟩ := id
  obtain rfl := (isJson_get? hjson hid).eq_text hi
  obtain ⟨hemail, gemail⟩ := optionalText_spec hjson email
  obtain ⟨havatar, gavatar⟩ := optionalText_spec hjson avatar
  have hread : Value.text n = (fields.valueAt "name").orElse (.str "") := by
    rw [Fields.valueAt_of_get? hname, orElse_emptyText]
  refine ⟨⟨.text n, .text i, (fields.valueAt "email").orElse .null,
    (fields.valueAt "avatar_url").orElse .null⟩, ⟨⟨_, hid, nofun, rfl⟩, hread, rfl, rfl⟩,
    ⟨.inr ⟨n, rfl⟩, .inr ⟨i, rfl⟩, hemail, havatar⟩, ⟨nofun, by simpa using hnil⟩, ?_⟩
  · refine .of_within (Fields.within_of_keys (keys_participant _)) keys ?_
    obtain ⟨pid, pname, pemail, pavatar⟩ := get?_participant ⟨.text n, .text i,
      (fields.valueAt "email").orElse .null, (fields.valueAt "avatar_url").orElse .null⟩
    simp only [get?_present, true_and] at gemail gavatar
    simp only [List.forall_mem_cons, List.not_mem_nil, false_imp_iff, implies_true, and_true]
    exact ⟨rel_of_eq (pname.trans hname.symm), rel_of_eq (pid.trans hid.symm),
      rel_of_eq (pemail.trans gemail), rel_of_eq (pavatar.trans gavatar)⟩

theorem exists_alternative (hjson : (Value.object fields).IsJson)
    (h : Grammar.IsAlternative (.object fields))
    (hexact : fields.MayHold "confidence" Value.IsFloat) :
    ∃ a : Alternative, a.IsReadFrom fields ∧ a.IsDeclared Value.IsFloat ∧
      (Value.object a.fields).Alike (.object fields) := by
  obtain ⟨keys, text, v, hconfidence, -⟩ := h
  obtain ⟨t, htext⟩ := get?_of_isString hjson text
  obtain ⟨x, rfl⟩ := hexact v hconfidence
  have hread := Fields.valueAt_of_get? hconfidence
  refine ⟨⟨.text t, .float x⟩, ⟨⟨_, htext, nofun, rfl⟩, hread ▸ .float x⟩, ⟨⟨t, rfl⟩, x, rfl⟩, ?_⟩
  refine .of_within (by simp [Fields.Within, Alternative.fields]) keys ?_
  simp only [List.forall_mem_cons, List.not_mem_nil, false_imp_iff, implies_true, and_true]
  exact ⟨rel_of_eq (by simp [htext, Alternative.fields, Fields.get?_cons]),
    rel_of_eq (by simp [hconfidence, Alternative.fields, Fields.get?_cons])⟩

theorem exists_readsAlternative (hjson : v.IsJson) (h : Grammar.IsAlternative v)
    (hexact : ∀ fields : Fields, v = .object fields → fields.MayHold "confidence" Value.IsFloat) :
    ∃ w, Input.ReadsAlternative v w ∧ (∃ a, w = .alternative a ∧ a.IsDeclared Value.IsFloat) ∧
      w.alternativePayload.Alike v := by
  obtain ⟨fields, rfl⟩ : ∃ fields, v = .object fields := by
    cases h
    exact ⟨_, rfl⟩
  obtain ⟨a, hread, hdeclared, halike⟩ := exists_alternative hjson h (hexact fields rfl)
  exact ⟨.alternative a, ⟨fields, a, rfl, rfl, hread⟩, ⟨a, rfl, hdeclared⟩, halike⟩

theorem exists_readsParticipant (hjson : v.IsJson) (h : Grammar.IsParticipant v) :
    ∃ w, Input.ReadsParticipant v w ∧
      (∃ p, w = .participant p ∧ p.IsDeclared ∧ p.id.IsPresent) ∧ w.participantPayload.Alike v := by
  obtain ⟨fields, rfl⟩ : ∃ fields, v = .object fields := by
    cases h
    exact ⟨_, rfl⟩
  obtain ⟨p, hread, hdeclared, hid, halike⟩ := exists_participant hjson h
  exact ⟨.participant p, ⟨fields, p, rfl, rfl, hread⟩, ⟨p, rfl, hdeclared, hid⟩, halike⟩

theorem exists_items {read : Value → Value → Prop} {good : Value → Prop} {payload : Value → Value}
    {items : List Value}
    (h : ∀ item ∈ items, ∃ w, read item w ∧ good w ∧ (payload w).Alike item) :
    ∃ ws, List.Forall₂ read items ws ∧ (∀ w ∈ ws, good w) ∧
      (Value.list (ws.map payload)).Alike (.list items) := by
  suffices hitems : ∃ ws, List.Forall₂ read items ws ∧ (∀ w ∈ ws, good w) ∧
      List.Forall₂ Value.Alike (ws.map payload) items by
    obtain ⟨ws, hread, hgood, halike⟩ := hitems
    exact ⟨ws, hread, hgood, .list halike⟩
  induction items with
  | nil => exact ⟨[], .nil, nofun, .nil⟩
  | cons item items ih =>
    obtain ⟨⟨w, hread, hgood, halike⟩, hitems⟩ := List.forall_mem_cons.mp h
    obtain ⟨ws, hreads, hgoods, halikes⟩ := ih hitems
    exact ⟨w :: ws, .cons hread hreads, List.forall_mem_cons.mpr ⟨hgood, hgoods⟩,
      .cons halike halikes⟩

theorem exists_result (hjson : (Value.object fields).IsJson) (h : Grammar.IsSpeech fields)
    (hexact : IsExactEvent fields) :
    ∃ r : SpeechResult, r.IsReadFrom fields ∧ r.IsDeclared Value.IsFloat ∧ r.messageId.IsPresent ∧
      ∀ name ∈ speechKeys,
        Option.Rel Value.Alike (r.fields.get? (key name)) (fields.get? (key name)) := by
  obtain ⟨⟨_, htranscript, items, rfl, hitems⟩, language, ⟨_, hinterim, b, rfl⟩, message,
    v, hstability, -⟩ := h
  obtain ⟨l, hlanguage⟩ := get?_of_isString hjson language
  obtain ⟨m, hmessage⟩ := get?_of_isString hjson message
  obtain ⟨x, rfl⟩ := hexact.stability v hstability
  obtain ⟨alternatives, hreads, hdeclared, halike⟩ := exists_items fun item hitem =>
    exists_readsAlternative (isJson_item (isJson_get? hjson htranscript) hitem) (hitems item hitem)
      fun inner hinner => hexact.confidence _ htranscript items rfl inner (hinner ▸ hitem)
  have hpresent : (Value.text m).IsPresent := ⟨nofun, hexact.messageId _ hmessage⟩
  have hlanguageText : Value.text l =
      .text ((fields.valueAt "language").orElse (.str "")).toText := by
    rw [Fields.valueAt_of_get? hlanguage, orElse_emptyText]
    rfl
  have hinterimTruth : Value.bool b = .bool (fields.valueAt "is_interim").isTruthy := by
    rw [Fields.valueAt_of_get? hinterim]
    rfl
  refine ⟨⟨alternatives, .text l, .bool b, .text m, .float x⟩,
    ⟨⟨_, htranscript, items, rfl, hreads⟩, hlanguageText, hinterimTruth, ⟨_, hmessage, nofun, rfl⟩,
      Fields.valueAt_of_get? hstability ▸ .float x⟩,
    ⟨hdeclared, .inr ⟨l, rfl⟩, .inr (.inl ⟨m, rfl⟩), x, rfl⟩, hpresent, ?_⟩
  simp only [speechKeys, List.forall_mem_cons, List.not_mem_nil, false_imp_iff, implies_true,
    and_true, htranscript, hlanguage, hinterim, hmessage, hstability]
  exact ⟨.some halike, rel_of_eq rfl, rel_of_eq rfl, rel_of_eq rfl, rel_of_eq rfl⟩

end Parts

section Events

theorem IsWrittenTime.exists_reading (h : IsWrittenTime v) :
    ∃ d, d.HasUtc ∧ v = .text d.canonicalText ∧ parseInstant v = .ok d := by
  obtain ⟨w, t, ht, rfl⟩ := h
  unfold formatInstant at ht
  split at ht
  · next d =>
    obtain ⟨hutc, rfl⟩ := formatReading_ok_iff.mp ht
    exact ⟨d.utc, (utc_utc hutc).1, congrArg Value.text hutc.canonicalText_utc.symm,
      parseInstant_canonicalText hutc⟩
  · cases ht

theorem kind_of_text {kind : EventKind} (hjson : (Value.object fields).IsJson)
    (h : Grammar.IsDescription kind fields) :
    fields.get? (key "event") = some (.text kind.text) := by
  obtain ⟨v, hget, htext⟩ := h.event
  rw [hget, (isJson_get? hjson hget).eq_text htext]

/-- Only speech has a result, and no other event has its keys. -/
theorem exists_occurrence (hjson : (Value.object fields).IsJson)
    (h : Grammar.IsEvent (.object fields)) (hexact : IsExactEvent fields) :
    ∃ o : Occurrence, Grammar.IsDescription o.kind fields ∧
      (∀ r, o.result? = some r →
        r.IsReadFrom fields ∧ r.IsDeclared Value.IsFloat ∧ r.messageId.IsPresent) ∧
      ∀ name ∈ speechKeys, Option.Rel Value.Alike
        (Fields.get? (o.result?.elim [] SpeechResult.fields) (key name))
        (fields.get? (key name)) := by
  cases h with
  | speech description speech =>
    obtain ⟨r, hread, hdeclared, hmessage, halike⟩ := exists_result hjson speech hexact
    refine ⟨.speech r, description, fun s hs => ?_, halike⟩
    obtain rfl := Option.some.inj hs
    exact ⟨hread, hdeclared, hmessage⟩
  | @silent _ kind hkind description silent =>
    have hnone (name : String) (hname : name ∈ speechKeys) :
        Option.Rel Value.Alike (Fields.get? [] (key name)) (fields.get? (key name)) := by
      have hget : fields.get? (key name) = none :=
        Fields.get?_of_not_mem fun hmem => by
          have hhas := Fields.has_iff_mem.mpr hmem
          rw [silent name hname] at hhas
          cases hhas
      rw [hget]
      exact .none
    cases kind with
    | join => exact ⟨.join, description, nofun, hnone⟩
    | leave => exact ⟨.leave, description, nofun, hnone⟩
    | raiseHand => exact ⟨.raiseHand, description, nofun, hnone⟩
    | speech => exact absurd rfl hkind

theorem get?_event_of_speechKeys (e : Event) (hname : name ∈ speechKeys) :
    e.fields.get? (key name) =
      Fields.get? (e.occurrence.result?.elim [] SpeechResult.fields) (key name) := by
  have hdescription : e.description.get? (key name) = none := by
    simp only [speechKeys, List.mem_cons, List.not_mem_nil, or_false] at hname
    rcases hname with rfl | rfl | rfl | rfl | rfl <;> simp [Event.description, Fields.get?_cons]
  rw [Event.fields, Fields.get?_append, hdescription, Option.none_or]

theorem exists_event (hjson : (Value.object fields).IsJson)
    (h : Grammar.IsEvent (.object fields)) (hexact : IsExactEvent fields) :
    ∃ e : Event, e.IsReadFrom fields ∧ e.IsDeclared Value.IsFloat ∧ e.IsEncodable ∧
      (Value.object e.fields).Alike (.object fields) := by
  -- The keys of speech are compared through the occurrence, the three others one by one.
  obtain ⟨o, description, hresult, hspeech⟩ := exists_occurrence hjson h hexact
  obtain ⟨_, htime, -⟩ := description.timestamp
  obtain ⟨d, hutc, rfl, hparse⟩ := (hexact.timestamp _ htime).exists_reading
  obtain ⟨_, hwho, hparticipant⟩ := description.participant
  obtain ⟨_, ⟨inner, p, rfl, rfl, hp⟩, ⟨_, hq, hdeclared, hid⟩, halike⟩ :=
    exists_readsParticipant (isJson_get? hjson hwho) hparticipant
  obtain rfl := Value.participant.inj hq
  have hkind := kind_of_text hjson description
  refine ⟨⟨d, p, o⟩, ⟨⟨_, hkind, rfl⟩, ⟨_, htime, hparse⟩, ⟨_, hwho, inner, rfl, hp⟩,
    fun r hr => (hresult r hr).1⟩, ⟨hdeclared, fun r hr => (hresult r hr).2.1⟩,
    ⟨hutc, hid, fun r hr => (hresult r hr).2.2⟩, ?_⟩
  refine .of_within (Fields.within_of_keys (keys_event _)) hexact.keys fun name hname => ?_
  obtain ⟨gkind, gtime, gwho⟩ := get?_event ⟨d, p, o⟩
  rcases List.mem_append.mp hname with hname | hname
  · simp only [List.mem_cons, List.not_mem_nil, or_false] at hname
    rcases hname with rfl | rfl | rfl
    · exact rel_of_eq (gkind.trans hkind.symm)
    · exact rel_of_eq (gtime.trans htime.symm)
    · rw [gwho, hwho]
      exact .some halike
  · rw [get?_event_of_speechKeys _ hname]
    exact hspeech name hname

/-- An event as encoding would write it is no envelope. -/
theorem IsExactEvent.not_live (h : IsExactEvent fields) : fields.has topicKey = false := by
  rw [Bool.eq_false_iff, ne_eq, Fields.has_iff_mem]
  intro hmem
  obtain ⟨f, hf, htopic⟩ := List.mem_map.mp hmem
  have hkey := h.keys f hf
  rw [htopic] at hkey
  simp [topicKey, speechKeys] at hkey

theorem exists_readsEvent (hjson : v.IsJson) (h : Grammar.IsEvent v)
    (hexact : ∀ fields : Fields, v = .object fields → IsExactEvent fields) :
    ∃ w, Input.ReadsEvent v w ∧
      (∃ e, w = .event e ∧ e.IsDeclared Value.IsFloat ∧ e.IsEncodable) ∧
      w.eventPayload.Alike v := by
  obtain ⟨fields, rfl⟩ : ∃ fields, v = .object fields := by
    cases h <;> exact ⟨_, rfl⟩
  have hexact := hexact fields rfl
  obtain ⟨e, hread, hdeclared, hencodable, halike⟩ := exists_event hjson h hexact
  exact ⟨.event e, ⟨fields, e, .bare hexact.not_live, rfl, hread⟩, ⟨e, rfl, hdeclared, hencodable⟩,
    halike⟩

end Events

section Transcripts

theorem optionalTime_spec (h : fields.MayHold name IsWrittenTime) :
    ∃ w, Input.ReadsTime (fields.valueAt name) w ∧ w.IsOptionalTime ∧
      (∀ d, w = .time d → d.HasUtc) ∧
      (timeField name w).get? (key name) = fields.get? (key name) := by
  unfold Fields.valueAt
  cases hget : fields.get? (key name) with
  | none => exact ⟨.null, .absent rfl, .inl rfl, fun d h => absurd h (by simp), rfl⟩
  | some v =>
    obtain ⟨d, hutc, rfl, hparse⟩ := (h v hget).exists_reading
    have hreading (e : DateTime) (he : Value.time d = .time e) : e.HasUtc :=
      Value.time.inj he ▸ hutc
    have hfield : (timeField name (.time d)).get? (key name) = some (.text d.canonicalText) := by
      simp [timeField, Fields.get?_cons]
    exact ⟨.time d, .time hparse, .inr ⟨d, rfl⟩, hreading, hfield⟩

theorem optionalArray_spec {read : Value → Value → Prop} {good : Value → Prop}
    {payload : Value → Value} (h : fields.MayHold name (Value.IsFilledArrayOf fun item =>
      ∃ w, read item w ∧ good w ∧ (payload w).Alike item)) :
    ∃ items ws, Input.HasItems (fields.valueAt name) items ∧ List.Forall₂ read items ws ∧
      (∀ w ∈ ws, good w) ∧
      Option.Rel Value.Alike ((present name (.list (ws.map payload))).get? (key name))
        (fields.get? (key name)) := by
  unfold Fields.valueAt
  cases hget : fields.get? (key name) with
  | none => exact ⟨[], [], .null, .nil, nofun, .none⟩
  | some v =>
    obtain ⟨items, rfl, hnil, hitems⟩ := h v hget
    obtain ⟨ws, hread, hgood, halike⟩ := exists_items hitems
    have hfilled : ws ≠ [] := by
      rintro rfl
      cases hread
      exact hnil rfl
    refine ⟨items, ws, .list items, hread, hgood, ?_⟩
    simpa [get?_present, isAbsent, hfilled] using Option.Rel.some halike

theorem exists_readsParticipants (hjson : (Value.object fields).IsJson)
    (h : fields.MayHold name (Value.IsFilledArrayOf Grammar.IsParticipant)) :
    fields.MayHold name (Value.IsFilledArrayOf fun item => ∃ w, Input.ReadsParticipant item w ∧
      (∃ p, w = .participant p ∧ p.IsDeclared ∧ p.id.IsPresent) ∧
      w.participantPayload.Alike item) := by
  intro v hget
  obtain ⟨items, rfl, hnil, hitems⟩ := h v hget
  exact ⟨items, rfl, hnil, fun item hitem =>
    exists_readsParticipant (isJson_item (isJson_get? hjson hget) hitem) (hitems item hitem)⟩

theorem exists_readsEvents (hjson : (Value.object fields).IsJson)
    (h : fields.MayHold name (Value.IsFilledArrayOf Grammar.IsEvent))
    (hexact : fields.MayHold name (EachObject IsExactEvent)) :
    fields.MayHold name (Value.IsFilledArrayOf fun item => ∃ w, Input.ReadsEvent item w ∧
      (∃ e, w = .event e ∧ e.IsDeclared Value.IsFloat ∧ e.IsEncodable) ∧
      w.eventPayload.Alike item) := by
  intro v hget
  obtain ⟨items, rfl, hnil, hitems⟩ := h v hget
  exact ⟨items, rfl, hnil, fun item hitem =>
    exists_readsEvent (isJson_item (isJson_get? hjson hget) hitem) (hitems item hitem)
      fun inner hinner => hexact _ hget items rfl inner (hinner ▸ hitem)⟩

theorem exists_transcript (hjson : (Value.object fields).IsJson)
    (h : Grammar.IsArtifact (.object fields)) (hexact : IsExact fields) :
    ∃ t : Transcript, t.IsReadFrom fields ∧ t.IsDeclared Value.IsFloat ∧ t.IsEncodable ∧
      (Value.object t.fields).Alike (.object fields) := by
  obtain ⟨keys, roomName, -, -, initialParticipants, events⟩ := h
  obtain ⟨hroom, groom⟩ := optionalText_spec hjson roomName
  obtain ⟨start, hstart, hstartTime, hstartUtc, gstart⟩ := optionalTime_spec hexact.startTime
  obtain ⟨stop, hstop, hstopTime, hstopUtc, gstop⟩ := optionalTime_spec hexact.endTime
  obtain ⟨people, initial, hpeople, hinitial, hknown, ginitial⟩ := optionalArray_spec
    (exists_readsParticipants hjson initialParticipants)
  obtain ⟨items, occurred, hitems, hoccurred, hgood, gevents⟩ := optionalArray_spec
    (exists_readsEvents hjson events hexact.events)
  refine ⟨⟨(fields.valueAt "room_name").orElse .null, start, stop, initial, occurred⟩,
    ⟨rfl, hstart, hstop, ⟨people, hpeople, hinitial⟩, items, hitems, hoccurred⟩,
    ⟨hroom, hstartTime, hstopTime, fun v hv => ?_, fun v hv => ?_⟩,
    ⟨hstartUtc, hstopUtc, fun p hp => ?_, fun e he => ?_⟩, ?_⟩
  · obtain ⟨p, rfl, hp, -⟩ := hknown v hv
    exact ⟨p, rfl, hp⟩
  · obtain ⟨e, rfl, he, -⟩ := hgood v hv
    exact ⟨e, rfl, he⟩
  · obtain ⟨_, hq, -, hid⟩ := hknown _ hp
    exact Value.participant.inj hq ▸ hid
  · obtain ⟨_, hf, -, hencodable⟩ := hgood _ he
    exact Value.event.inj hf ▸ hencodable
  · refine .of_within (Fields.within_of_keys (keys_transcript _)) keys ?_
    obtain ⟨troom, tstart, tstop, tinitial, tevents⟩ := get?_transcript
      ⟨(fields.valueAt "room_name").orElse .null, start, stop, initial, occurred⟩
    simp only [get?_present, true_and] at groom
    simp only [List.forall_mem_cons, List.not_mem_nil, false_imp_iff, implies_true, and_true]
    exact ⟨rel_of_eq (troom.trans groom), rel_of_eq (tstart.trans gstart),
      rel_of_eq (tstop.trans gstop), tinitial ▸ ginitial, tevents ▸ gevents⟩

end Transcripts

/-- What is decoded from an artifact that is written as encoding would write it is encoded as that
artifact again, its events and participants in the order in which they stand. -/
theorem encode_decode (hjson : (Value.object fields).IsJson)
    (hvalid : validateArtifact (.object fields) = .ok ()) (hexact : IsExact fields) :
    ∃ t payload, parseTranscript (.object fields) = .ok t ∧
      encodeTranscript (.transcript t) = .ok payload ∧ payload.Alike (.object fields) := by
  obtain ⟨t, hread, hdeclared, hencodable, halike⟩ :=
    exists_transcript hjson (Grammar.isArtifact_of_valid hvalid) hexact
  exact ⟨t, _, Input.parseTranscript_ok_iff.mpr ⟨fields, rfl, hread⟩,
    (encodeTranscript_eq_ok hdeclared).mpr ⟨hencodable, rfl⟩, halike⟩

def visitor : Fields := [(key "id", .str "v1"), (key "name", .str "")]

def remarkFields : Fields :=
  [(key "stability", .float .zero), (key "message_id", .str "m1"), (key "event", .str "SPEECH"),
    (key "transcript", .list [.object [(key "confidence", .float (.ofRank false 1)),
      (key "text", .str "hello")]]), (key "is_interim", .bool false), (key "language", .str "en"),
    (key "timestamp", .str "2024-12-07T20:00:00.123Z"), (key "participant", .object visitor)]

def arrivalFields : Fields :=
  [(key "event", .str "JOIN"), (key "timestamp", .str "2024-12-07T19:00:00Z"),
    (key "participant", .object visitor)]

/-- An artifact in which the later event stands first and a participant twice. -/
def inquiry : Fields :=
  [(key "events", .list [.object remarkFields, .object arrivalFields]),
    (key "initial_participants", .list [.object visitor, .object visitor]),
    (key "start_time", .str "2024-12-07T19:00:00Z")]

theorem isWrittenTime_seven : IsWrittenTime (.str "2024-12-07T19:00:00Z") :=
  ⟨.time ⟨⟨63869194800000000, by decide⟩, some .utc, none⟩, _, by cbv, rfl⟩

theorem isWrittenTime_eight : IsWrittenTime (.str "2024-12-07T20:00:00.123Z") :=
  ⟨.time ⟨⟨63869198400123000, by decide⟩, some .utc, none⟩, _, by cbv, rfl⟩

theorem isJson_inquiry : (Value.object inquiry).IsJson := by
  have hvisitor : (Value.object visitor).IsJson :=
    .object (by simp [visitor, Value.isJson_str])
  have hheard : (Value.object [(key "confidence", .float (.ofRank false 1)),
      (key "text", .str "hello")]).IsJson :=
    .object (by simp [Value.isJson_str, Value.IsJson.float])
  have htranscript := Value.IsJson.list (List.forall_mem_singleton.mpr hheard)
  have hremark : (Value.object remarkFields).IsJson :=
    .object (by simp [remarkFields, Value.isJson_str, Value.IsJson.bool,
      Value.IsJson.float, htranscript, hvisitor])
  have harrival : (Value.object arrivalFields).IsJson :=
    .object (by simp [arrivalFields, Value.isJson_str, hvisitor])
  have hevents : (Value.list [.object remarkFields, .object arrivalFields]).IsJson :=
    .list (by simp [hremark, harrival])
  have hinitial : (Value.list [.object visitor, .object visitor]).IsJson :=
    .list (by simp [hvisitor])
  exact .object (by simp [inquiry, Value.isJson_str, hevents, hinitial])

theorem isExactEvent_remark : IsExactEvent remarkFields := by
  refine ⟨by simp [Fields.Within, remarkFields, speechKeys], fun v hv => ?_, fun v hv => ?_,
    fun v hv => ?_, fun v hv => ?_⟩ <;>
    simp [remarkFields, Fields.get?_cons] at hv <;> subst hv
  · exact isWrittenTime_eight
  · rintro items h inner hinner
    obtain rfl := Value.list.inj h
    obtain rfl := Value.object.inj (List.mem_singleton.mp hinner)
    intro v hv
    simp [Fields.get?_cons] at hv
    exact ⟨_, hv.symm⟩
  · simp [Value.str, Text.ofString]
  · exact ⟨_, rfl⟩

theorem isExactEvent_arrival : IsExactEvent arrivalFields := by
  refine ⟨by simp [Fields.Within, arrivalFields, speechKeys], fun v hv => ?_, fun v hv => ?_,
    fun v hv => ?_, fun v hv => ?_⟩ <;>
    simp [arrivalFields, Fields.get?_cons] at hv
  subst hv
  exact isWrittenTime_seven

theorem isExact_inquiry : IsExact inquiry := by
  refine ⟨fun v hv => ?_, fun v hv => ?_, fun v hv => ?_⟩ <;>
    simp [inquiry, Fields.get?_cons] at hv <;> subst hv
  · exact isWrittenTime_seven
  · rintro items h inner hinner
    obtain rfl := Value.list.inj h
    simp only [List.mem_cons, Value.object.injEq, List.not_mem_nil, or_false] at hinner
    rcases hinner with rfl | rfl
    · exact isExactEvent_remark
    · exact isExactEvent_arrival

theorem encode_decode_inquiry :
    validateArtifact (.object inquiry) = .ok () ∧
      ∃ t payload, parseTranscript (.object inquiry) = .ok t ∧
        encodeTranscript (.transcript t) = .ok payload ∧ payload.Alike (.object inquiry) := by
  have hadmits : artifactSchema.admits (.object inquiry) = true := by decide +kernel
  have hvalid : validateArtifact (.object inquiry) = .ok () := by
    rw [validateArtifact, mapError_eq_ok, Schema.validate_eq_ok, hadmits]
  exact ⟨hvalid, encode_decode isJson_inquiry hvalid isExact_inquiry⟩

end Wire

end Proceedings
