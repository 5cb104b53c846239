import Proceedings.Proofs.Schema.Admits
import Proceedings.Proofs.Wire.Encode

/-! # Payloads conform to the schema

What the schema of artifacts admits, part by part, and that the payloads of records with fields of
their declared types are among it.
-/

namespace Proceedings.Wire

section Timestamp

theorem isDecimal_of_isAsciiDigit {p : CodePoint} (h : p.isAsciiDigit = true) :
    p.isDecimal = true := by
  simp only [CodePoint.isAsciiDigit, Bool.and_eq_true, decide_eq_true_eq] at h
  have hzeros : CodePoint.decimalZeros = 0x30 :: CodePoint.decimalZeros.tail := rfl
  rw [CodePoint.isDecimal, CodePoint.decimalValue?, hzeros, List.find?_cons_of_pos]
  · rfl
  · simp only [Bool.and_eq_true, decide_eq_true_eq]
    omega

theorem fits_of_digits (digits : Text) (h : ∀ p ∈ digits, p.isAsciiDigit = true)
    (template : List Char) (t : Text) :
    fits (List.replicate digits.length '0' ++ template) (digits ++ t) = fits template t := by
  induction digits with
  | nil => rfl
  | cons p digits ih =>
    obtain ⟨hp, hdigits⟩ := List.forall_mem_cons.mp h
    simp [List.replicate_succ, fits, isDecimal_of_isAsciiDigit hp, ih hdigits]

theorem fits_digitsText (width n : Nat) (template : List Char) (t : Text) :
    fits (List.replicate width '0' ++ template) (digitsText width n ++ t) = fits template t := by
  have h := fits_of_digits (digitsText width n) (fun _ => isAsciiDigit_of_mem) template t
  rwa [length_digitsText] at h

theorem fits_mark {c : Char} (hc : c ≠ '0') (template : List Char) (t : Text) :
    fits (c :: template) (.scalar c :: t) = fits template t := by
  simp [fits, hc]

/-- What stands behind the seconds decides which template fits. -/
theorem fits_moment (date : Date) (hour minute second : Nat) (template : List Char) (t : Text) :
    fits ("0000-00-00T00:00:00".toList ++ template)
      (Iso.dateText date ++ .scalar 'T' :: Iso.clockText hour minute second t) =
        fits template t := by
  have htemplate : "0000-00-00T00:00:00".toList ++ template =
      List.replicate 4 '0' ++ '-' :: (List.replicate 2 '0' ++ '-' :: (List.replicate 2 '0' ++
        'T' :: (List.replicate 2 '0' ++ ':' :: (List.replicate 2 '0' ++ ':' ::
          (List.replicate 2 '0' ++ template))))) := rfl
  rw [htemplate, Iso.dateText, Iso.clockText]
  simp only [List.append_assoc, List.cons_append, fits_digitsText, fits_mark, ne_eq, Char.reduceEq,
    not_false_eq_true]

theorem isTimestamp_of_fraction (date : Date) (hour minute second : Nat) {micro : Nat}
    {fraction : Text} (hf : Iso.IsFraction micro fraction) :
    isTimestamp (Iso.dateText date ++ .scalar 'T' ::
      Iso.clockText hour minute second (fraction ++ [.scalar 'Z'])) = true := by
  have hmoment := fits_moment date hour minute second
  simp only [isTimestamp, Bool.or_eq_true, List.any_eq_true]
  left
  cases hf with
  | none => exact ⟨"0000-00-00T00:00:00Z", by decide, hmoment "Z".toList _⟩
  | millis =>
    refine ⟨"0000-00-00T00:00:00.000Z", by decide, (hmoment ".000Z".toList _).trans ?_⟩
    exact fits_digitsText 3 _ ['Z'] _
  | micros =>
    refine ⟨"0000-00-00T00:00:00.000000Z", by decide, (hmoment ".000000Z".toList _).trans ?_⟩
    exact fits_digitsText 6 _ ['Z'] _

theorem isTimestamp_canonicalText (d : DateTime) : isTimestamp d.canonicalText = true := by
  have htext : d.canonicalText = Iso.dateText d.utc.date ++ .scalar 'T' ::
      Iso.clockText d.utc.hour d.utc.minute d.utc.second
        (Text.ofChars d.utc.fractionChars ++ [.scalar 'Z']) := by
    simp only [DateTime.canonicalText, DateTime.canonicalChars, DateTime.secondsChars,
      Text.ofChars, Iso.dateText, Iso.clockText, digitsText, List.map_append, List.map_cons,
      List.map_nil, List.append_assoc, List.cons_append]
  rw [htext]
  exact isTimestamp_of_fraction _ _ _ _ (Iso.isFraction_fractionChars d.utc)

end Timestamp

section Parts

variable {v : Value}

theorem admits_string : stringSchema.admits v = true ↔ ∃ t, v.text? = some t := by
  rw [stringSchema, Schema.admits_of_type, JsonType.admits_string]
  simp

theorem admits_nonEmpty : nonEmptySchema.admits v = true ↔ ∃ t, v.text? = some t ∧ t ≠ [] := by
  rw [nonEmptySchema, Schema.admits_of_type, JsonType.admits_string, List.forall_mem_singleton,
    Keyword.Holds]
  constructor
  · rintro ⟨⟨t, ht⟩, h⟩
    exact ⟨t, ht, fun hnil => h (hnil ▸ ht)⟩
  · rintro ⟨t, ht, h⟩
    exact ⟨⟨t, ht⟩, fun hnil => h (Option.some.inj (ht.symm.trans hnil))⟩

theorem admits_number : numberSchema.admits v = true ↔ (∃ n, v = .int n) ∨ ∃ x, v = .float x := by
  rw [numberSchema, Schema.admits_of_type, JsonType.admits_number]
  simp

theorem admits_timestamp :
    timestampSchema.admits v = true ↔ ∃ t, v.text? = some t ∧ isTimestamp t = true := by
  rw [timestampSchema, Schema.admits_of_type, JsonType.admits_string, List.forall_mem_singleton,
    Keyword.Holds]
  constructor
  · rintro ⟨⟨t, ht⟩, h⟩
    exact ⟨t, ht, h t ht⟩
  · rintro ⟨t, ht, h⟩
    refine ⟨⟨t, ht⟩, fun u hu => ?_⟩
    obtain rfl := Option.some.inj (ht.symm.trans hu)
    exact h

/-- An object with all keys that are required and none that are not declared, each with a value
that its schema admits. -/
theorem admits_closed {keys : List String} {schemas : List (String × Schema)} :
    (Schema.of [.type .object, .required keys, .closed, .properties schemas]).admits v = true ↔
      ∃ fields, v = .object fields ∧
        (∀ k ∈ keys, Fields.has fields (Text.ofString k) = true) ∧
        (∀ f ∈ fields, f.1 ∈ schemas.map fun s => Text.ofString s.1) ∧
        ∀ s ∈ schemas, ∀ w, Fields.get? fields (Text.ofString s.1) = some w →
          s.2.admits w = true := by
  simp only [Schema.admits_of_object, List.forall_mem_cons, List.not_mem_nil, false_imp_iff,
    implies_true, and_true, Keyword.Holds, Value.object.injEq, forall_eq', Keyword.declaredKeys,
    List.append_nil]

/-- An open object with a condition that decides between two further schemas. -/
theorem admits_conditional {keys : List String} {schemas : List (String × Schema)}
    {condition consequence alternative : Schema} :
    (Schema.of [.type .object, .required keys, .properties schemas,
        .choice condition consequence alternative]).admits v = true ↔
      ∃ fields, v = .object fields ∧
        (∀ k ∈ keys, Fields.has fields (Text.ofString k) = true) ∧
        (∀ s ∈ schemas, ∀ w, Fields.get? fields (Text.ofString s.1) = some w →
          s.2.admits w = true) ∧
        (condition.admits (.object fields) = true → consequence.admits (.object fields) = true) ∧
        (condition.admits (.object fields) = false →
          alternative.admits (.object fields) = true) := by
  simp only [Schema.admits_of_object, List.forall_mem_cons, List.not_mem_nil, false_imp_iff,
    implies_true, and_true, Keyword.Holds, Value.object.injEq, forall_eq']

theorem admits_array {s : Schema} :
    (Schema.of [.type .array, .items s]).admits v = true ↔
      ∃ items, v = .list items ∧ ∀ w ∈ items, s.admits w = true := by
  simp only [Schema.admits_of_array, List.forall_mem_singleton, Keyword.Holds, Value.list.injEq,
    forall_eq']

theorem admits_nonEmptyArray {s : Schema} :
    (Schema.of [.type .array, .minItems, .items s]).admits v = true ↔
      ∃ items, v = .list items ∧ items ≠ [] ∧ ∀ w ∈ items, s.admits w = true := by
  simp only [Schema.admits_of_array, List.forall_mem_cons, List.not_mem_nil, false_imp_iff,
    implies_true, and_true, Keyword.Holds, ne_eq, Value.list.injEq, forall_eq']

end Parts

section Payloads

theorem admits_text_of_orEmptyText {v : Value} (hv : v.IsOptionalText) :
    stringSchema.admits (orEmptyText v) = true := by
  rcases hv with rfl | ⟨t, rfl⟩
  · exact admits_string.mpr ⟨_, rfl⟩
  · exact admits_string.mpr ⟨t, rfl⟩

theorem admits_nonEmpty_of_present {v : Value} (hv : v.IsOptionalText) (h : v.IsPresent) :
    nonEmptySchema.admits v = true := by
  rcases hv with rfl | ⟨t, rfl⟩
  · exact absurd rfl h.1
  · exact admits_nonEmpty.mpr ⟨t, rfl, fun ht => h.2 (congrArg Value.text ht)⟩

theorem admits_nonEmpty_of_not_absent {v : Value} (hv : v.IsOptionalText) (h : isAbsent v = false) :
    nonEmptySchema.admits v = true := by
  refine admits_nonEmpty_of_present hv ⟨?_, ?_⟩ <;> rintro rfl <;> cases h

theorem admits_nonEmpty_of_field {v w : Value} (hv : v.IsOptionalText)
    (h : (if isAbsent v = false then some v else none) = some w) :
    nonEmptySchema.admits w = true := by
  split at h
  · next hpresent =>
    obtain rfl := Option.some.inj h
    exact admits_nonEmpty_of_not_absent hv hpresent
  · cases h

theorem admits_of_get? {fields : Fields} {name : String} {v : Value} {s : Schema}
    (hget : fields.get? (key name) = some v) (h : s.admits v = true) :
    ∀ w, fields.get? (Text.ofString name) = some w → s.admits w = true := by
  intro w hw
  obtain rfl := Option.some.inj (hget.symm.trans hw)
  exact h

theorem admits_participant {p : Participant} (hp : p.IsDeclared) (hid : p.id.IsPresent) :
    participantSchema.admits (.object p.fields) = true := by
  rw [participantSchema, admits_closed]
  refine ⟨_, rfl, ?_, Fields.within_of_keys (keys_participant p), ?_⟩
  · simp [Fields.has, Participant.fields, key]
  · obtain ⟨gid, gname, gemail, gavatar⟩ := get?_participant p
    simp only [List.forall_mem_cons, List.not_mem_nil, false_imp_iff, implies_true, and_true]
    refine ⟨admits_of_get? gname (admits_text_of_orEmptyText hp.name),
      admits_of_get? gid (admits_nonEmpty_of_present hp.id hid), fun w hw => ?_, fun w hw => ?_⟩
    · exact admits_nonEmpty_of_field hp.email (gemail.symm.trans hw)
    · exact admits_nonEmpty_of_field hp.avatarUrl (gavatar.symm.trans hw)

section

variable {number : Value → Prop}

theorem admits_alternative {a : Alternative} (ha : a.IsDeclared number)
    (hnumber : ∀ v, number v → numberSchema.admits v = true) :
    alternativeSchema.admits (.object a.fields) = true := by
  have gtext : a.fields.get? (key "text") = some a.text := by
    simp [Alternative.fields, Fields.get?_cons]
  have gconfidence : a.fields.get? (key "confidence") = some a.confidence := by
    simp [Alternative.fields, Fields.get?_cons]
  rw [alternativeSchema, admits_closed]
  refine ⟨_, rfl, ?_, ?_, ?_⟩
  · simp [Fields.has, Alternative.fields, key]
  · simp [Alternative.fields, key]
  · simp only [List.forall_mem_cons, List.not_mem_nil, false_imp_iff, implies_true, and_true]
    obtain ⟨t, ht⟩ := ha.text
    exact ⟨admits_of_get? gtext (admits_string.mpr ⟨t, by rw [ht]; rfl⟩),
      admits_of_get? gconfidence (hnumber _ ha.confidence)⟩

theorem kind_text_inj {k l : EventKind} : k.text = l.text ↔ k = l := by
  cases k <;> cases l <;> decide

theorem admits_isSpeech {fields : Fields} {kind : EventKind}
    (h : fields.Holds "event" fun v => v.text? = some kind.text) :
    (Schema.of [.properties [("event", .of [.const EventKind.speech.name])]]).admits
      (.object fields) = true ↔ kind = .speech := by
  obtain ⟨v, hget, htext⟩ := h
  have hget : fields.get? (Text.ofString "event") = some v := hget
  simp only [Schema.admits_of, List.forall_mem_singleton, Keyword.Holds, Value.object.injEq,
    forall_eq', hget, Option.some.injEq, htext]
  exact kind_text_inj

theorem admits_required {keys : List String} {fields : Fields} :
    (Schema.of [.required keys]).admits (.object fields) = true ↔
      ∀ k ∈ keys, fields.has (key k) = true := by
  simp [Schema.admits_of, Keyword.Holds, key]

theorem admits_without {keys : List String} {fields : Fields} :
    (Schema.of [.not (.of [.anyOf (keys.map fun k => .of [.required [k]])])]).admits
      (.object fields) = true ↔ ∀ k ∈ keys, fields.has (key k) = false := by
  have hany : (Schema.of [.anyOf (keys.map fun k => .of [.required [k]])]).admits
      (.object fields) = true ↔ ∃ k ∈ keys, fields.has (key k) = true := by
    rw [Schema.admits_of]
    simp only [List.forall_mem_cons, List.not_mem_nil, false_imp_iff, implies_true, and_true,
      Keyword.Holds, List.mem_map]
    constructor
    · rintro ⟨_, ⟨k, hk, rfl⟩, h⟩
      exact ⟨k, hk, admits_required.mp h k (by simp)⟩
    · rintro ⟨k, hk, h⟩
      exact ⟨_, ⟨k, hk, rfl⟩, admits_required.mpr (by simpa using h)⟩
  rw [Schema.admits_of]
  simp only [List.forall_mem_cons, List.not_mem_nil, false_imp_iff, implies_true, and_true,
    Keyword.Holds]
  rw [← Bool.not_eq_true, hany]
  simp

theorem admits_of_speech {e : Event} {name : String} {s : Schema} (hname : name ∈ speechKeys)
    (h : ∀ r, e.occurrence.result? = some r →
      ∃ v, e.fields.get? (key name) = some v ∧ s.admits v = true) :
    ∀ w, e.fields.get? (Text.ofString name) = some w → s.admits w = true := by
  cases hr : e.occurrence.result? with
  | none =>
    intro w hw
    cases (get?_of_no_speech hr hname).symm.trans hw
  | some r =>
    obtain ⟨v, hget, hv⟩ := h r hr
    exact admits_of_get? hget hv

theorem admits_alternatives {r : SpeechResult} (hr : r.IsDeclared number)
    (hnumber : ∀ v, number v → numberSchema.admits v = true) :
    (Schema.of [.type .array, .items alternativeSchema]).admits
      (.list (r.alternatives.map Value.alternativePayload)) = true := by
  refine admits_array.mpr ⟨_, rfl, fun w hw => ?_⟩
  obtain ⟨v, hv, rfl⟩ := List.mem_map.mp hw
  obtain ⟨a, rfl, ha⟩ := hr.alternatives v hv
  exact admits_alternative ha hnumber

theorem kind_eq_speech_iff {e : Event} :
    e.kind = .speech ↔ ∃ r, e.occurrence.result? = some r := by
  cases h : e.occurrence <;> simp [Event.kind, h, Occurrence.kind, Occurrence.result?]

theorem has_speechKeys {e : Event} {r : SpeechResult} (hr : e.occurrence.result? = some r) :
    ∀ k ∈ speechKeys, e.fields.has (key k) = true := by
  obtain ⟨gtranscript, glanguage, ginterim, gmessage, gstability⟩ := get?_speech hr
  simp only [speechKeys, List.forall_mem_cons, List.not_mem_nil, false_imp_iff, implies_true,
    and_true, Fields.has_iff_get?]
  exact ⟨⟨_, gtranscript⟩, ⟨_, glanguage⟩, ⟨_, ginterim⟩, ⟨_, gmessage⟩, ⟨_, gstability⟩⟩

theorem admits_event {e : Event} (he : e.IsDeclared number)
    (hnumber : ∀ v, number v → numberSchema.admits v = true) (henc : e.IsEncodable) :
    eventSchema.admits (.object e.fields) = true := by
  obtain ⟨gevent, gtimestamp, gparticipant⟩ := get?_event e
  rw [eventSchema, admits_conditional]
  refine ⟨_, rfl, ?_, ?_, fun h => ?_, fun h => ?_⟩
  · simp only [List.forall_mem_cons, List.not_mem_nil, false_imp_iff, implies_true, and_true]
    exact ⟨Fields.has_iff_get?.mpr ⟨_, gevent⟩, Fields.has_iff_get?.mpr ⟨_, gtimestamp⟩,
      Fields.has_iff_get?.mpr ⟨_, gparticipant⟩⟩
  · simp only [List.forall_mem_cons, List.not_mem_nil, false_imp_iff, implies_true, and_true]
    refine ⟨admits_of_get? gevent ?_, admits_of_get? gtimestamp ?_, admits_of_get? gparticipant ?_,
      admits_of_speech (by decide) fun r hr => ⟨_, (get?_speech hr).1, ?_⟩,
      admits_of_speech (by decide) fun r hr => ⟨_, (get?_speech hr).2.1, ?_⟩,
      admits_of_speech (by decide) fun r hr => ⟨_, (get?_speech hr).2.2.1, ?_⟩,
      admits_of_speech (by decide) fun r hr => ⟨_, (get?_speech hr).2.2.2.1, ?_⟩,
      admits_of_speech (by decide) fun r hr => ⟨_, (get?_speech hr).2.2.2.2, ?_⟩⟩
    · cases e.kind <;> decide
    · exact admits_timestamp.mpr ⟨_, rfl, isTimestamp_canonicalText _⟩
    · exact admits_participant he.participant henc.participantId
    · exact admits_alternatives (he.result r hr) hnumber
    · exact admits_text_of_orEmptyText (he.result r hr).language
    · rfl
    · exact admits_string.mpr ⟨_, rfl⟩
    · exact hnumber _ (he.result r hr).stability
  · obtain ⟨r, hr⟩ := kind_eq_speech_iff.mp ((admits_isSpeech ⟨_, gevent, rfl⟩).mp h)
    exact admits_required.mpr (has_speechKeys hr)
  · have hnone : e.occurrence.result? = none := by
      refine Option.eq_none_iff_forall_ne_some.mpr fun r hr => ?_
      have hadmits := (admits_isSpeech ⟨_, gevent, rfl⟩).mpr (kind_eq_speech_iff.mpr ⟨r, hr⟩)
      rw [h] at hadmits
      cases hadmits
    refine admits_without.mpr fun k hk => ?_
    rw [← Bool.not_eq_true, Fields.has_iff_get?, get?_of_no_speech hnone hk]
    rintro ⟨_, h⟩
    cases h

theorem admits_timestamp_of_timeField {name : String} {v w : Value}
    (h : (timeField name v).get? (key name) = some w) : timestampSchema.admits w = true := by
  cases v with
  | time d =>
    simp only [timeField, Fields.get?_cons, if_true, Option.some.injEq] at h
    exact admits_timestamp.mpr ⟨_, by rw [← h]; rfl, isTimestamp_canonicalText d⟩
  | _ => cases h

theorem admits_nonEmptyArray_of_present {name : String} {items : List Value} {w : Value}
    {s : Schema} (hitems : ∀ v ∈ items, s.admits v = true)
    (h : (present name (.list items)).get? (key name) = some w) :
    (Schema.of [.type .array, .minItems, .items s]).admits w = true := by
  rw [get?_present] at h
  split at h
  · next hpresent =>
    obtain rfl := Option.some.inj h
    refine admits_nonEmptyArray.mpr ⟨items, rfl, ?_, hitems⟩
    rintro rfl
    cases hpresent.2
  · cases h

theorem admits_artifact {t : Transcript} (ht : t.IsDeclared number)
    (hnumber : ∀ v, number v → numberSchema.admits v = true) (henc : t.IsEncodable) :
    artifactSchema.admits (.object t.fields) = true := by
  obtain ⟨groom, gstart, gend, ginitial, gevents⟩ := get?_transcript t
  rw [artifactSchema, Schema.admits_of]
  simp only [List.forall_mem_cons, List.not_mem_nil, false_imp_iff, implies_true, and_true,
    Keyword.Holds, Value.object.injEq, forall_eq']
  refine ⟨rfl, Fields.within_of_keys (keys_transcript t), fun w hw => ?_, fun w hw => ?_,
    fun w hw => ?_, fun w hw => ?_, fun w hw => ?_⟩
  · exact admits_nonEmpty_of_field ht.roomName (groom.symm.trans hw)
  · exact admits_timestamp_of_timeField (gstart.symm.trans hw)
  · exact admits_timestamp_of_timeField (gend.symm.trans hw)
  · refine admits_nonEmptyArray_of_present (fun v hv => ?_) (ginitial.symm.trans hw)
    obtain ⟨v, hmem, rfl⟩ := List.mem_map.mp hv
    obtain ⟨p, rfl, hp⟩ := ht.initialParticipants v hmem
    exact admits_participant hp (henc.participantId p hmem)
  · refine admits_nonEmptyArray_of_present (fun v hv => ?_) (gevents.symm.trans hw)
    obtain ⟨v, hmem, rfl⟩ := List.mem_map.mp hv
    obtain ⟨e, rfl, he⟩ := ht.events v hmem
    exact admits_event he hnumber (henc.events e hmem)

end

end Payloads

end Proceedings.Wire
