import Proceedings.Proofs.Schema.Validator
import Proceedings.Proofs.Wire.Conformance

/-! # The grammar of artifacts

Which values are artifacts, said without the schema: the keys that each object must and may have,
and what stands under them. The schema of artifacts admits exactly these.
-/

namespace Proceedings

namespace Value

/-- A text; the kind of an event counts as its name. -/
def IsString (v : Value) : Prop := ∃ t, v.text? = some t

def IsNonEmptyString (v : Value) : Prop := ∃ t, v.text? = some t ∧ t ≠ []

/-- An integer or a binary number. A truth value is neither. -/
def IsNumeric (v : Value) : Prop := (∃ n, v = .int n) ∨ ∃ x, v = .float x

def IsArrayOf (p : Value → Prop) (v : Value) : Prop := ∃ items, v = .list items ∧ ∀ w ∈ items, p w

def IsFilledArrayOf (p : Value → Prop) (v : Value) : Prop :=
  ∃ items, v = .list items ∧ items ≠ [] ∧ ∀ w ∈ items, p w

end Value

namespace Wire.Grammar

/-- So many decimal digits, of any script. -/
def Digits (n : Nat) (t : Text) : Prop := t.length = n ∧ ∀ p ∈ t, p.isDecimal = true

/-- A date and a time of day to the second, in digits. -/
inductive IsMoment : Text → Prop
  | intro {year month day hour minute second} (hyear : Digits 4 year) (hmonth : Digits 2 month)
      (hday : Digits 2 day) (hhour : Digits 2 hour) (hminute : Digits 2 minute)
      (hsecond : Digits 2 second) :
      IsMoment (year ++ .scalar '-' :: (month ++ .scalar '-' :: (day ++ .scalar 'T' ::
        (hour ++ .scalar ':' :: (minute ++ .scalar ':' :: second)))))

inductive IsFraction : Text → Prop
  | none : IsFraction []
  | millis {digits} (h : Digits 3 digits) : IsFraction (.scalar '.' :: digits)
  | micros {digits} (h : Digits 6 digits) : IsFraction (.scalar '.' :: digits)

/-- A moment with the letter for UTC behind it; a line feed may follow. -/
inductive IsTimestamp : Text → Prop
  | intro {moment fraction feed} (hmoment : IsMoment moment) (hfraction : IsFraction fraction)
      (hfeed : feed = [] ∨ feed = [.scalar '\n']) :
      IsTimestamp (moment ++ fraction ++ .scalar 'Z' :: feed)

def IsTime (v : Value) : Prop := ∃ t, v.text? = some t ∧ IsTimestamp t

inductive IsParticipant : Value → Prop
  | object {fields : Fields} (keys : fields.Within ["name", "id", "email", "avatar_url"])
      (name : fields.Holds "name" Value.IsString) (id : fields.Holds "id" Value.IsNonEmptyString)
      (email : fields.MayHold "email" Value.IsNonEmptyString)
      (avatarUrl : fields.MayHold "avatar_url" Value.IsNonEmptyString) :
      IsParticipant (.object fields)

inductive IsAlternative : Value → Prop
  | object {fields : Fields} (keys : fields.Within ["text", "confidence"])
      (text : fields.Holds "text" Value.IsString)
      (confidence : fields.Holds "confidence" Value.IsNumeric) :
      IsAlternative (.object fields)

structure IsDescription (kind : EventKind) (fields : Fields) : Prop where
  event : fields.Holds "event" fun v => v.text? = some kind.text
  timestamp : fields.Holds "timestamp" IsTime
  participant : fields.Holds "participant" IsParticipant

structure IsSpeech (fields : Fields) : Prop where
  transcript : fields.Holds "transcript" (Value.IsArrayOf IsAlternative)
  language : fields.Holds "language" Value.IsString
  isInterim : fields.Holds "is_interim" fun v => ∃ b, v = .bool b
  messageId : fields.Holds "message_id" Value.IsString
  stability : fields.Holds "stability" Value.IsNumeric

/-- Events may have further keys, but only speech those of speech. -/
inductive IsEvent : Value → Prop
  | speech {fields : Fields} (description : IsDescription .speech fields)
      (speech : IsSpeech fields) : IsEvent (.object fields)
  | silent {fields : Fields} {kind : EventKind} (hkind : kind ≠ .speech)
      (description : IsDescription kind fields)
      (silent : ∀ name ∈ speechKeys, fields.has (key name) = false) : IsEvent (.object fields)

inductive IsArtifact : Value → Prop
  | object {fields : Fields}
      (keys : fields.Within ["room_name", "start_time", "end_time", "initial_participants",
        "events"])
      (roomName : fields.MayHold "room_name" Value.IsNonEmptyString)
      (startTime : fields.MayHold "start_time" IsTime)
      (endTime : fields.MayHold "end_time" IsTime)
      (initialParticipants :
        fields.MayHold "initial_participants" (Value.IsFilledArrayOf IsParticipant))
      (events : fields.MayHold "events" (Value.IsFilledArrayOf IsEvent)) :
      IsArtifact (.object fields)

section Timestamps

variable {template : List Char} {t : Text}

theorem fits_nil : fits [] t = true ↔ t = [] := List.isEmpty_iff

theorem fits_mark_iff {c : Char} (hc : c ≠ '0') :
    fits (c :: template) t = true ↔ ∃ u, t = .scalar c :: u ∧ fits template u = true := by
  cases t with
  | nil => simp [fits]
  | cons p t => simp [fits, hc, and_assoc]

theorem fits_digits_iff (n : Nat) :
    fits (List.replicate n '0' ++ template) t = true ↔
      ∃ digits u, t = digits ++ u ∧ Digits n digits ∧ fits template u = true := by
  induction n generalizing t with
  | zero => simp [Digits]
  | succ n ih =>
    rw [List.replicate_succ, List.cons_append]
    constructor
    · intro h
      cases t with
      | nil => cases h
      | cons p t =>
        simp only [fits, if_true, Bool.and_eq_true] at h
        obtain ⟨digits, u, rfl, ⟨hlength, hdigits⟩, hu⟩ := ih.mp h.2
        exact ⟨p :: digits, u, rfl,
          ⟨by simp [hlength], List.forall_mem_cons.mpr ⟨h.1, hdigits⟩⟩, hu⟩
    · rintro ⟨digits, u, rfl, ⟨hlength, hdigits⟩, hu⟩
      obtain ⟨p, digits, rfl⟩ := List.exists_cons_of_length_eq_add_one hlength
      obtain ⟨hp, hdigits⟩ := List.forall_mem_cons.mp hdigits
      simp only [List.cons_append, fits, if_true, Bool.and_eq_true]
      exact ⟨hp, ih.mpr ⟨digits, u, rfl, ⟨by simpa using hlength, hdigits⟩, hu⟩⟩

theorem fits_moment_iff (template : List Char) :
    fits ("0000-00-00T00:00:00".toList ++ template) t = true ↔
      ∃ moment u, t = moment ++ u ∧ IsMoment moment ∧ fits template u = true := by
  have htemplate : "0000-00-00T00:00:00".toList ++ template =
      List.replicate 4 '0' ++ '-' :: (List.replicate 2 '0' ++ '-' :: (List.replicate 2 '0' ++
        'T' :: (List.replicate 2 '0' ++ ':' :: (List.replicate 2 '0' ++ ':' ::
          (List.replicate 2 '0' ++ template))))) := rfl
  simp only [htemplate, fits_digits_iff, fits_mark_iff (c := '-') (by decide),
    fits_mark_iff (c := 'T') (by decide), fits_mark_iff (c := ':') (by decide)]
  constructor
  · rintro ⟨year, _, rfl, hyear, _, rfl, month, _, rfl, hmonth, _, rfl, day, _, rfl, hday, _, rfl,
      hour, _, rfl, hhour, _, rfl, minute, _, rfl, hminute, _, rfl, second, u, rfl, hsecond, hu⟩
    exact ⟨_, u, by simp, .intro hyear hmonth hday hhour hminute hsecond, hu⟩
  · rintro ⟨_, u, rfl, ⟨hyear, hmonth, hday, hhour, hminute, hsecond⟩, hu⟩
    simp only [List.append_assoc, List.cons_append]
    exact ⟨_, _, rfl, hyear, _, rfl, _, _, rfl, hmonth, _, rfl, _, _, rfl, hday, _, rfl,
      _, _, rfl, hhour, _, rfl, _, _, rfl, hminute, _, rfl, _, u, rfl, hsecond, hu⟩

theorem fits_utc_iff : fits ['Z'] t = true ↔ t = [.scalar 'Z'] := by
  simp [fits_mark_iff (c := 'Z') (by decide), fits_nil]

theorem fits_fraction_iff (n : Nat) :
    fits ('.' :: (List.replicate n '0' ++ ['Z'])) t = true ↔
      ∃ digits, Digits n digits ∧ t = .scalar '.' :: digits ++ [.scalar 'Z'] := by
  simp only [fits_mark_iff (c := '.') (by decide), fits_digits_iff, fits_utc_iff]
  constructor
  · rintro ⟨_, rfl, digits, _, rfl, hdigits, rfl⟩
    exact ⟨digits, hdigits, rfl⟩
  · rintro ⟨digits, hdigits, rfl⟩
    exact ⟨_, rfl, digits, _, rfl, hdigits, rfl⟩

theorem fits_templates_iff :
    (timestampTemplates.any fun template => fits template.toList t) = true ↔
      ∃ moment fraction, IsMoment moment ∧ IsFraction fraction ∧
        t = moment ++ fraction ++ [.scalar 'Z'] := by
  have hwhole := fits_moment_iff (t := t) ['Z']
  have hmillis := fits_moment_iff (t := t) ('.' :: (List.replicate 3 '0' ++ ['Z']))
  have hmicros := fits_moment_iff (t := t) ('.' :: (List.replicate 6 '0' ++ ['Z']))
  have hany : (timestampTemplates.any fun template => fits template.toList t) = true ↔
      fits ("0000-00-00T00:00:00".toList ++ ['Z']) t = true ∨
      fits ("0000-00-00T00:00:00".toList ++ '.' :: (List.replicate 3 '0' ++ ['Z'])) t = true ∨
      fits ("0000-00-00T00:00:00".toList ++ '.' :: (List.replicate 6 '0' ++ ['Z'])) t = true := by
    simp [timestampTemplates]
  simp only [hany, hwhole, hmillis, hmicros, fits_utc_iff, fits_fraction_iff]
  constructor
  · rintro (⟨moment, _, rfl, hmoment, rfl⟩ | ⟨moment, _, rfl, hmoment, digits, hdigits, rfl⟩ |
      ⟨moment, _, rfl, hmoment, digits, hdigits, rfl⟩)
    · exact ⟨moment, [], hmoment, .none, by simp⟩
    · exact ⟨moment, _, hmoment, .millis hdigits, by simp⟩
    · exact ⟨moment, _, hmoment, .micros hdigits, by simp⟩
  · rintro ⟨moment, _, hmoment, hfraction, rfl⟩
    cases hfraction with
    | none => exact .inl ⟨moment, _, by simp, hmoment, rfl⟩
    | millis h => exact .inr (.inl ⟨moment, _, by simp, hmoment, _, h, rfl⟩)
    | micros h => exact .inr (.inr ⟨moment, _, by simp, hmoment, _, h, rfl⟩)

theorem isTimestamp_iff : isTimestamp t = true ↔ IsTimestamp t := by
  simp only [isTimestamp, Bool.or_eq_true, Bool.and_eq_true, beq_iff_eq, fits_templates_iff]
  constructor
  · rintro (⟨moment, fraction, hmoment, hfraction, rfl⟩ |
      ⟨hlast, moment, fraction, hmoment, hfraction, ht⟩)
    · exact .intro hmoment hfraction (.inl rfl)
    · have hfeed := List.dropLast_append_getLast? _ hlast
      rw [← hfeed, ht, List.append_assoc]
      exact .intro hmoment hfraction (.inr rfl)
  · rintro ⟨hmoment, hfraction, rfl | rfl⟩
    · exact .inl ⟨_, _, hmoment, hfraction, rfl⟩
    · exact .inr ⟨by simp, _, _, hmoment, hfraction, by simp⟩

end Timestamps

section Fields

variable {fields : Fields} {name : String} {schema : Schema} {p : Value → Prop}

theorem holds_iff (h : ∀ v, schema.admits v = true ↔ p v) :
    fields.Holds name p ↔ fields.has (key name) = true ∧
      ∀ v, fields.get? (key name) = some v → schema.admits v = true := by
  simp only [h, Fields.has_iff_get?]
  constructor
  · rintro ⟨v, hget, hv⟩
    refine ⟨⟨v, hget⟩, fun w hw => ?_⟩
    obtain rfl := Option.some.inj (hget.symm.trans hw)
    exact hv
  · rintro ⟨⟨v, hget⟩, hall⟩
    exact ⟨v, hget, hall v hget⟩

theorem mayHold_iff (h : ∀ v, schema.admits v = true ↔ p v) :
    fields.MayHold name p ↔
      ∀ v, fields.get? (key name) = some v → schema.admits v = true := by
  simp only [h, Fields.MayHold]

end Fields

section Schemas

variable {v : Value} {fields : Fields}

theorem admits_time : timestampSchema.admits v = true ↔ IsTime v := by
  simp only [admits_timestamp, isTimestamp_iff, IsTime]

theorem admits_participant_iff : participantSchema.admits v = true ↔ IsParticipant v := by
  rw [participantSchema, admits_closed]
  simp only [List.forall_mem_cons, List.not_mem_nil, false_imp_iff, implies_true, and_true]
  have hstring := fun w => admits_string (v := w)
  have hfilled := fun w => admits_nonEmpty (v := w)
  constructor
  · rintro ⟨fields, rfl, ⟨hname, hid⟩, hkeys, name, id, email, avatar⟩
    exact .object hkeys ((holds_iff hstring).mpr ⟨hname, name⟩)
      ((holds_iff hfilled).mpr ⟨hid, id⟩) ((mayHold_iff hfilled).mpr email)
      ((mayHold_iff hfilled).mpr avatar)
  · rintro ⟨keys, name, id, email, avatar⟩
    obtain ⟨hname, name⟩ := (holds_iff hstring).mp name
    obtain ⟨hid, id⟩ := (holds_iff hfilled).mp id
    exact ⟨_, rfl, ⟨hname, hid⟩, keys, name, id, (mayHold_iff hfilled).mp email,
      (mayHold_iff hfilled).mp avatar⟩

theorem admits_alternative_iff : alternativeSchema.admits v = true ↔ IsAlternative v := by
  rw [alternativeSchema, admits_closed]
  simp only [List.forall_mem_cons, List.not_mem_nil, false_imp_iff, implies_true, and_true]
  have hstring := fun w => admits_string (v := w)
  have hnumber := fun w => admits_number (v := w)
  constructor
  · rintro ⟨fields, rfl, ⟨htext, hconfidence⟩, hkeys, text, confidence⟩
    exact .object hkeys ((holds_iff hstring).mpr ⟨htext, text⟩)
      ((holds_iff hnumber).mpr ⟨hconfidence, confidence⟩)
  · rintro ⟨keys, text, confidence⟩
    obtain ⟨htext, text⟩ := (holds_iff hstring).mp text
    obtain ⟨hconfidence, confidence⟩ := (holds_iff hnumber).mp confidence
    exact ⟨_, rfl, ⟨htext, hconfidence⟩, keys, text, confidence⟩

theorem admits_boolean : (Schema.of [.type .boolean]).admits v = true ↔ ∃ b, v = .bool b := by
  rw [Schema.admits_of_type]
  cases v <;> simp [JsonType.admits]

theorem admits_kind : (Schema.of [.enum (EventKind.all.map EventKind.name)]).admits v = true ↔
    ∃ kind : EventKind, v.text? = some kind.text := by
  rw [Schema.admits_of, List.forall_mem_singleton, Keyword.Holds]
  constructor
  · rintro ⟨name, hname, htext⟩
    obtain ⟨kind, -, rfl⟩ := List.mem_map.mp hname
    exact ⟨kind, htext⟩
  · rintro ⟨kind, htext⟩
    exact ⟨kind.name, List.mem_map_of_mem (by cases kind <;> decide), htext⟩

theorem admits_transcript_iff :
    (Schema.of [.type .array, .items alternativeSchema]).admits v = true ↔
      v.IsArrayOf IsAlternative := by
  simp only [admits_array, admits_alternative_iff, Value.IsArrayOf]

theorem isSpeech_iff : IsSpeech fields ↔
    (Schema.of [.required speechKeys]).admits (.object fields) = true ∧
    (∀ w, fields.get? (key "transcript") = some w →
      (Schema.of [.type .array, .items alternativeSchema]).admits w = true) ∧
    (∀ w, fields.get? (key "language") = some w → stringSchema.admits w = true) ∧
    (∀ w, fields.get? (key "is_interim") = some w →
      (Schema.of [.type .boolean]).admits w = true) ∧
    (∀ w, fields.get? (key "message_id") = some w → stringSchema.admits w = true) ∧
    ∀ w, fields.get? (key "stability") = some w → numberSchema.admits w = true := by
  have htranscript := fun w => admits_transcript_iff (v := w)
  have hstring := fun w => admits_string (v := w)
  have hboolean := fun w => admits_boolean (v := w)
  have hnumber := fun w => admits_number (v := w)
  simp only [admits_required, speechKeys, List.forall_mem_cons, List.not_mem_nil, false_imp_iff,
    implies_true, and_true]
  constructor
  · rintro ⟨transcript, language, isInterim, messageId, stability⟩
    obtain ⟨h₁, transcript⟩ := (holds_iff htranscript).mp transcript
    obtain ⟨h₂, language⟩ := (holds_iff hstring).mp language
    obtain ⟨h₃, isInterim⟩ := (holds_iff hboolean).mp isInterim
    obtain ⟨h₄, messageId⟩ := (holds_iff hstring).mp messageId
    obtain ⟨h₅, stability⟩ := (holds_iff hnumber).mp stability
    exact ⟨⟨h₁, h₂, h₃, h₄, h₅⟩, transcript, language, isInterim, messageId, stability⟩
  · rintro ⟨⟨h₁, h₂, h₃, h₄, h₅⟩, transcript, language, isInterim, messageId, stability⟩
    exact ⟨(holds_iff htranscript).mpr ⟨h₁, transcript⟩, (holds_iff hstring).mpr ⟨h₂, language⟩,
      (holds_iff hboolean).mpr ⟨h₃, isInterim⟩, (holds_iff hstring).mpr ⟨h₄, messageId⟩,
      (holds_iff hnumber).mpr ⟨h₅, stability⟩⟩

theorem exists_isDescription_iff : (∃ kind, IsDescription kind fields) ↔
    (fields.has (key "event") = true ∧ fields.has (key "timestamp") = true ∧
      fields.has (key "participant") = true) ∧
    (∀ w, fields.get? (key "event") = some w →
      (Schema.of [.enum (EventKind.all.map EventKind.name)]).admits w = true) ∧
    (∀ w, fields.get? (key "timestamp") = some w → timestampSchema.admits w = true) ∧
    ∀ w, fields.get? (key "participant") = some w → participantSchema.admits w = true := by
  have hkind := fun w => admits_kind (v := w)
  have htime := fun w => admits_time (v := w)
  have hparticipant := fun w => admits_participant_iff (v := w)
  constructor
  · rintro ⟨kind, ⟨v, hget, htext⟩, timestamp, participant⟩
    obtain ⟨h₁, event⟩ := (holds_iff hkind).mp ⟨v, hget, kind, htext⟩
    obtain ⟨h₂, timestamp⟩ := (holds_iff htime).mp timestamp
    obtain ⟨h₃, participant⟩ := (holds_iff hparticipant).mp participant
    exact ⟨⟨h₁, h₂, h₃⟩, event, timestamp, participant⟩
  · rintro ⟨⟨h₁, h₂, h₃⟩, event, timestamp, participant⟩
    obtain ⟨v, hget, kind, htext⟩ := (holds_iff hkind).mpr ⟨h₁, event⟩
    exact ⟨kind, ⟨v, hget, htext⟩, (holds_iff htime).mpr ⟨h₂, timestamp⟩,
      (holds_iff hparticipant).mpr ⟨h₃, participant⟩⟩

theorem admits_event_iff : eventSchema.admits v = true ↔ IsEvent v := by
  rw [eventSchema, admits_conditional]
  simp only [List.forall_mem_cons, List.not_mem_nil, false_imp_iff, implies_true, and_true]
  constructor
  · rintro ⟨fields, rfl, hrequired, ⟨event, timestamp, participant, hspoken⟩, hspeech, hsilent⟩
    obtain ⟨kind, description⟩ :=
      exists_isDescription_iff.mpr ⟨hrequired, event, timestamp, participant⟩
    have hcondition := admits_isSpeech description.event
    by_cases hkind : kind = .speech
    · subst hkind
      exact .speech description (isSpeech_iff.mpr ⟨hspeech (hcondition.mpr rfl), hspoken⟩)
    · have hfalse := Bool.eq_false_iff.mpr (mt hcondition.mp hkind)
      exact .silent hkind description (admits_without.mp (hsilent hfalse))
  · intro h
    cases h with
    | @speech fields description speech =>
      obtain ⟨hrequired, event, timestamp, participant⟩ :=
        exists_isDescription_iff.mp ⟨_, description⟩
      obtain ⟨hspeech, hspoken⟩ := isSpeech_iff.mp speech
      have hcondition := (admits_isSpeech description.event).mpr rfl
      refine ⟨fields, rfl, hrequired, ⟨event, timestamp, participant, hspoken⟩, fun _ => hspeech,
        fun hfalse => ?_⟩
      rw [hcondition] at hfalse
      cases hfalse
    | @silent fields kind hkind description silent =>
      obtain ⟨hrequired, event, timestamp, participant⟩ :=
        exists_isDescription_iff.mp ⟨_, description⟩
      have hcondition := mt (admits_isSpeech description.event).mp hkind
      have hnone {schema : Schema} {name : String} (hname : name ∈ speechKeys) (w : Value)
          (hw : fields.get? (key name) = some w) : schema.admits w = true := by
        have hhas := Fields.has_iff_get?.mpr ⟨w, hw⟩
        rw [silent name hname] at hhas
        cases hhas
      exact ⟨fields, rfl, hrequired, ⟨event, timestamp, participant, hnone (by decide),
        hnone (by decide), hnone (by decide), hnone (by decide), hnone (by decide)⟩,
        fun htrue => absurd htrue hcondition, fun _ => admits_without.mpr silent⟩

theorem admits_artifact_iff : artifactSchema.admits v = true ↔ IsArtifact v := by
  have hfilled := fun w => admits_nonEmpty (v := w)
  have htime := fun w => admits_time (v := w)
  have hparticipants (w : Value) :
      (Schema.of [.type .array, .minItems, .items participantSchema]).admits w = true ↔
        w.IsFilledArrayOf IsParticipant := by
    simp only [admits_nonEmptyArray, admits_participant_iff, Value.IsFilledArrayOf]
  have hevents (w : Value) :
      (Schema.of [.type .array, .minItems, .items eventSchema]).admits w = true ↔
        w.IsFilledArrayOf IsEvent := by
    simp only [admits_nonEmptyArray, admits_event_iff, Value.IsFilledArrayOf]
  rw [artifactSchema, Schema.admits_of_object]
  simp only [List.forall_mem_cons, List.not_mem_nil, false_imp_iff, implies_true, and_true,
    Keyword.Holds, Value.object.injEq, forall_eq']
  constructor
  · rintro ⟨fields, rfl, keys, roomName, startTime, endTime, initialParticipants, events⟩
    exact .object keys ((mayHold_iff hfilled).mpr roomName) ((mayHold_iff htime).mpr startTime)
      ((mayHold_iff htime).mpr endTime) ((mayHold_iff hparticipants).mpr initialParticipants)
      ((mayHold_iff hevents).mpr events)
  · rintro ⟨keys, roomName, startTime, endTime, initialParticipants, events⟩
    exact ⟨_, rfl, keys, (mayHold_iff hfilled).mp roomName, (mayHold_iff htime).mp startTime,
      (mayHold_iff htime).mp endTime, (mayHold_iff hparticipants).mp initialParticipants,
      (mayHold_iff hevents).mp events⟩

theorem isArtifact_of_valid (h : validateArtifact v = .ok ()) : IsArtifact v :=
  admits_artifact_iff.mp (Schema.validate_eq_ok.mp (mapError_eq_ok.mp h))

/-- Validation accepts exactly the artifacts of the grammar. -/
theorem validateArtifact_ok_iff (payload : Value) :
    validateArtifact payload = .ok () ↔ IsArtifact payload := by
  rw [validateArtifact, mapError_eq_ok, Schema.validate_eq_ok, admits_artifact_iff]

/-- With any validator, what is formatted is a payload that is an artifact of the grammar. -/
theorem formatTranscript_ok_iff {validate : Schema → Value → Except Violation Unit}
    (h : Schema.IsValidator validate) {w : Value} :
    (validate artifactSchema w = .ok () ↔ IsArtifact w) ∧
      (formatTranscript v = .ok w ↔
        encodeTranscript v = .ok w ∧ validate artifactSchema w = .ok ()) := by
  have hvalid := (h.ok_iff_admits artifactSchema w).trans admits_artifact_iff
  refine ⟨hvalid, ?_⟩
  rw [formatTranscript_eq_ok, validateArtifact, mapError_eq_ok, Schema.validate_eq_ok,
    admits_artifact_iff, hvalid]

end Schemas

end Wire.Grammar

end Proceedings
