import Proceedings.Proofs.Json.Writable
import Proceedings.Proofs.Wire.Expressible
import Proceedings.Proofs.Wire.Grammar

/-! # Artifacts that can be written

The schema asks for texts throughout, and for numbers as the confidences and stabilities of speech.
So an artifact has a JSON text unless one of these is an integer of too many digits.
-/

namespace Proceedings

open Wire

section Numbers

/-- A result whose stability and confidences are such values. -/
structure SpeechResult.NumbersAre (p : Value → Prop) (r : SpeechResult) : Prop where
  stability : p r.stability
  confidence : ∀ a, .alternative a ∈ r.alternatives → p a.confidence

def Transcript.NumbersAre (p : Value → Prop) (t : Transcript) : Prop :=
  ∀ e r, .event e ∈ t.events → e.occurrence.result? = some r → r.NumbersAre p

variable {number : Binary64 → Prop} {v : Value} {name : String}

theorem Value.IsString.isWritable (h : v.IsString) : v.IsWritable number := by
  obtain ⟨t, ht⟩ := h
  cases v <;> first | exact .text _ | exact .kind _ | cases ht

theorem Wire.forall_of_filled {items : List Value} {q : Value → Prop} {fields : Fields}
    (hget : fields.get? (key name) = (present name (.list items)).get? (key name))
    (hvalid : fields.MayHold name (Value.IsFilledArrayOf q)) : ∀ item ∈ items, q item := by
  intro item hitem
  have hfilled : isAbsent (.list items) = false := by
    cases items with
    | nil => cases hitem
    | cons => rfl
  rw [get?_present, if_pos ⟨rfl, hfilled⟩] at hget
  obtain ⟨_, hlist, -, hall⟩ := hvalid _ hget
  exact hall item (Value.list.inj hlist ▸ hitem)

theorem Wire.forall_present_list {items : List Value} :
    (∀ f ∈ present name (.list items), f.2.IsWritable number) ↔
      ∀ v ∈ items, v.IsWritable number := by
  rw [forall_present_iff, Value.isWritable_list]
  cases items with
  | nil => exact iff_of_true (fun _ => nofun) nofun
  | cons => exact imp_iff_right rfl

theorem Wire.forall_present_of_mayHold {fields : Fields}
    (hget : fields.get? (key name) = if isAbsent v = false then some v else none)
    (hvalid : fields.MayHold name Value.IsNonEmptyString) :
    ∀ f ∈ present name v, f.2.IsWritable number := by
  refine forall_present_iff.mpr fun hpresent => ?_
  rw [if_pos hpresent] at hget
  obtain ⟨t, ht, -⟩ := hvalid v hget
  exact Value.IsString.isWritable ⟨t, ht⟩

theorem Participant.isWritable_of_valid {p : Participant}
    (h : Grammar.IsParticipant (.object p.fields)) : (Value.object p.fields).IsWritable number := by
  obtain ⟨-, ⟨_, hname, name⟩, ⟨_, hid, t, ht, -⟩, email, avatarUrl⟩ := h
  obtain ⟨gid, gname, gemail, gavatar⟩ := get?_participant p
  obtain rfl := Option.some.inj (gname.symm.trans hname)
  obtain rfl := Option.some.inj (gid.symm.trans hid)
  have hwritable : p.id.IsWritable number := Value.IsString.isWritable ⟨t, ht⟩
  rw [Value.isWritable_object, Participant.fields, List.forall_mem_append, List.forall_mem_append]
  refine ⟨⟨?_, forall_present_of_mayHold gemail email⟩, forall_present_of_mayHold gavatar avatarUrl⟩
  simp [name.isWritable, hwritable]

theorem Alternative.isWritable_iff {a : Alternative}
    (h : Grammar.IsAlternative (.object a.fields)) :
    (Value.object a.fields).IsWritable number ↔ a.confidence.IsWritable number := by
  obtain ⟨-, ⟨_, hget, text⟩, -⟩ := h
  obtain rfl : a.text = _ := by simpa [Alternative.fields, Fields.get?_cons] using hget
  simp [Value.isWritable_object, Alternative.fields, text.isWritable]

theorem SpeechResult.isWritable_iff {r : SpeechResult} (hr : r.IsAssembled)
    (htranscript : (Value.list (r.alternatives.map Value.alternativePayload)).IsArrayOf
      Grammar.IsAlternative)
    (hlanguage : (orEmptyText r.language).IsString) :
    (∀ f ∈ r.fields, f.2.IsWritable number) ↔ r.NumbersAre (·.IsWritable number) := by
  obtain ⟨_, hitems, halternatives⟩ := htranscript
  obtain rfl := Value.list.inj hitems
  have halternative (a : Alternative) (ha : .alternative a ∈ r.alternatives) :
      (Value.object a.fields).IsWritable number ↔ a.confidence.IsWritable number :=
    Alternative.isWritable_iff (halternatives _ (List.mem_map_of_mem ha))
  have hlist : (Value.list (r.alternatives.map Value.alternativePayload)).IsWritable number ↔
      ∀ a, .alternative a ∈ r.alternatives → a.confidence.IsWritable number := by
    rw [Value.isWritable_list, List.forall_mem_map]
    constructor
    · intro h a ha
      exact (halternative a ha).mp (h _ ha)
    · intro h v hv
      obtain ⟨a, rfl⟩ := hr v hv
      exact (halternative a hv).mpr (h a hv)
  have hfields : (∀ f ∈ r.fields, f.2.IsWritable number) ↔
      (Value.list (r.alternatives.map Value.alternativePayload)).IsWritable number ∧
        r.stability.IsWritable number := by
    simp [SpeechResult.fields, hlanguage.isWritable, Value.IsWritable.bool, Value.IsWritable.text]
  rw [hfields, hlist]
  exact ⟨fun h => ⟨h.2, h.1⟩, fun h => ⟨h.confidence, h.stability⟩⟩

theorem Event.isSpeech_of_valid {e : Event} (h : Grammar.IsEvent (.object e.fields))
    {r : SpeechResult} (hr : e.occurrence.result? = some r) : Grammar.IsSpeech e.fields := by
  cases h with
  | speech _ speech => exact speech
  | silent _ _ silent =>
    have hhas := Fields.has_iff_get?.mpr ⟨_, (get?_speech hr).1⟩
    rw [silent "transcript" (by decide)] at hhas
    cases hhas

theorem Event.isWritable_iff {e : Event} (he : e.IsAssembled)
    (h : Grammar.IsEvent (.object e.fields)) :
    (Value.object e.fields).IsWritable number ↔
      ∀ r, e.occurrence.result? = some r → r.NumbersAre (·.IsWritable number) := by
  obtain ⟨kind, description⟩ : ∃ kind, Grammar.IsDescription kind e.fields := by
    cases h <;> exact ⟨_, ‹_›⟩
  obtain ⟨_, hget, who⟩ := description.participant
  obtain rfl := Option.some.inj ((get?_event e).2.2.symm.trans hget)
  have hdescription : ∀ f ∈ e.description, f.2.IsWritable number := by
    simp [Event.description, Value.IsWritable.text, Participant.isWritable_of_valid who]
  rw [Value.isWritable_object, Event.fields, List.forall_mem_append, and_iff_right hdescription]
  cases hr : e.occurrence.result? with
  | none => simp
  | some r =>
    obtain ⟨⟨_, htranscript, transcript⟩, ⟨_, hlanguage, language⟩, -, -, -⟩ :=
      Event.isSpeech_of_valid h hr
    obtain ⟨gtranscript, glanguage, -, -, -⟩ := get?_speech hr
    obtain rfl := Option.some.inj (gtranscript.symm.trans htranscript)
    obtain rfl := Option.some.inj (glanguage.symm.trans hlanguage)
    simpa using SpeechResult.isWritable_iff (he r hr) transcript language

/-- The payload of a transcript can be written exactly if the numbers of its speech can. -/
theorem Transcript.isWritable_iff {t : Transcript} (ht : t.IsAssembled)
    (h : Grammar.IsArtifact (.object t.fields)) :
    (Value.object t.fields).IsWritable number ↔ t.NumbersAre (·.IsWritable number) := by
  obtain ⟨-, roomName, -, -, initialParticipants, events⟩ := h
  obtain ⟨groom, -, -, ginitial, gevents⟩ := get?_transcript t
  have hinitial : ∀ f ∈ present "initial_participants"
      (.list (t.initialParticipants.map Value.participantPayload)), f.2.IsWritable number := by
    refine forall_present_list.mpr fun w hw => ?_
    have hvalid := forall_of_filled ginitial initialParticipants w hw
    obtain ⟨v, hv, rfl⟩ := List.mem_map.mp hw
    obtain ⟨p, rfl⟩ := ht.initialParticipants v hv
    exact Participant.isWritable_of_valid hvalid
  have hevent (e : Event) (he : .event e ∈ t.events) (hassembled : e.IsAssembled) :
      (Value.object e.fields).IsWritable number ↔
        ∀ r, e.occurrence.result? = some r → r.NumbersAre (·.IsWritable number) :=
    Event.isWritable_iff hassembled (forall_of_filled gevents events _ (List.mem_map_of_mem he))
  have hfields : (Value.object t.fields).IsWritable number ↔
      ∀ v ∈ t.events.map Value.eventPayload, v.IsWritable number := by
    simp only [Value.isWritable_object, Transcript.fields, List.forall_mem_append]
    rw [and_iff_right, forall_present_list]
    exact ⟨⟨⟨forall_present_of_mayHold groom roomName, forall_timeField .text _ _⟩,
      forall_timeField .text _ _⟩, hinitial⟩
  rw [hfields, List.forall_mem_map]
  constructor
  · intro h e r he hr
    obtain ⟨e', heq, hassembled⟩ := ht.events _ he
    obtain rfl := Value.event.inj heq
    exact (hevent e he hassembled).mp (h _ he) r hr
  · intro h v hv
    obtain ⟨e, rfl, hassembled⟩ := ht.events v hv
    exact (hevent e hv hassembled).mpr fun r hr => h e r hv hr

theorem Transcript.HoldsJson.numbersAre {t : Transcript} (h : t.HoldsJson) :
    t.NumbersAre Value.IsNumber := by
  intro e r he hr
  obtain ⟨_, heq, hevent⟩ := h.events _ he
  obtain rfl := Value.event.inj heq
  obtain ⟨halternatives, -, hstability⟩ := hevent.result r hr
  refine ⟨hstability, fun a ha => ?_⟩
  obtain ⟨_, heq, hjson⟩ := halternatives _ ha
  obtain rfl := Value.alternative.inj heq
  exact hjson.confidence

theorem Transcript.numbersAre_of_valid {t : Transcript}
    (h : Grammar.IsArtifact (.object t.fields)) : t.NumbersAre Value.IsNumeric := by
  obtain ⟨-, -, -, -, -, events⟩ := h
  obtain ⟨-, -, -, -, gevents⟩ := get?_transcript t
  intro e r he hr
  have hvalid := forall_of_filled gevents events _ (List.mem_map_of_mem he)
  obtain ⟨⟨_, htranscript, transcript⟩, -, -, -, ⟨_, hstability, stability⟩⟩ :=
    Event.isSpeech_of_valid hvalid hr
  obtain ⟨gtranscript, -, -, -, gstability⟩ := get?_speech hr
  obtain rfl := Option.some.inj (gstability.symm.trans hstability)
  obtain rfl := Option.some.inj (gtranscript.symm.trans htranscript)
  obtain ⟨_, hitems, halternatives⟩ := transcript
  obtain rfl := Value.list.inj hitems
  refine ⟨stability, fun a ha => ?_⟩
  obtain ⟨-, -, ⟨_, hconfidence, confidence⟩⟩ := halternatives _ (List.mem_map_of_mem ha)
  obtain rfl : a.confidence = _ := by simpa [Alternative.fields, Fields.get?_cons] using hconfidence
  exact confidence

theorem Transcript.NumbersAre.imp₂ {p q s : Value → Prop} {t : Transcript}
    (h : ∀ v, p v → q v → s v) (hp : t.NumbersAre p) (hq : t.NumbersAre q) : t.NumbersAre s := by
  intro e r he hr
  obtain ⟨hstability, hconfidence⟩ := hp e r he hr
  obtain ⟨hstability', hconfidence'⟩ := hq e r he hr
  exact ⟨h _ hstability hstability', fun a ha => h _ (hconfidence a ha) (hconfidence' a ha)⟩

theorem Transcript.NumbersAre.imp {p q : Value → Prop} {t : Transcript} (h : ∀ v, p v → q v)
    (hp : t.NumbersAre p) : t.NumbersAre q :=
  hp.imp₂ (fun v hv _ => h v hv) hp

theorem Value.IsNumber.isWritable (h : v.IsNumber) : v.IsWritable fun _ => True := by
  rcases h with ⟨x, rfl⟩ | ⟨n, rfl, hdigits⟩
  · exact .float trivial
  · exact .int hdigits

theorem Value.IsNumeric.isNumber (h : v.IsNumeric) (hv : v.IsWritable fun _ => True) :
    v.IsNumber := by
  rcases h with ⟨n, rfl⟩ | ⟨x, rfl⟩
  · cases hv with
    | int hdigits => exact .inr ⟨n, rfl, hdigits⟩
  · exact .inl ⟨x, rfl⟩

end Numbers

section Artifacts

variable {t : Transcript} {payload : Value} {number : Binary64 → Prop}

theorem eq_fields_of_formatTranscript (h : formatTranscript (.transcript t) = .ok payload) :
    t.IsAssembled ∧ payload = .object t.fields ∧ Grammar.IsArtifact (.object t.fields) := by
  obtain ⟨hencode, hvalid⟩ := formatTranscript_eq_ok.mp h
  obtain ⟨hassembled, -, rfl⟩ := encodeTranscript_spec hencode
  exact ⟨hassembled, rfl, Grammar.isArtifact_of_valid hvalid⟩

theorem isWritable_artifact_iff (h : formatTranscript (.transcript t) = .ok payload) :
    payload.IsWritable number ↔ t.NumbersAre (·.IsWritable number) := by
  obtain ⟨ht, rfl, hartifact⟩ := eq_fields_of_formatTranscript h
  exact Transcript.isWritable_iff ht hartifact

theorem exists_serialize {v : Value} (h : v.IsWritable number) :
    ∃ text, serialize v = .ok text := by
  have hspecial : Json.artifactLayout.special = true := rfl
  obtain ⟨text, htext⟩ := Json.exists_write hspecial h 0
  exact ⟨text, by rw [serialize, Json.serialize, htext]; rfl⟩

/-- An artifact has a text exactly if no number in it has too many digits. -/
theorem exists_serialize_artifact_iff (h : formatTranscript (.transcript t) = .ok payload) :
    (∃ text, serialize payload = .ok text) ↔ t.NumbersAre Value.IsNumber := by
  obtain ⟨-, -, hartifact⟩ := eq_fields_of_formatTranscript h
  have hnumeric := Transcript.numbersAre_of_valid hartifact
  constructor
  · rintro ⟨text, htext⟩
    have hpayload := Json.isWritable_of_write (mapError_eq_ok.mp htext)
    exact hnumeric.imp₂ (fun _ h => h.isNumber) ((isWritable_artifact_iff h).mp hpayload)
  · intro hnumber
    exact exists_serialize ((isWritable_artifact_iff h).mpr (hnumber.imp fun _ h => h.isWritable))

end Artifacts

end Proceedings
