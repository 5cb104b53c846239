import Proceedings.Proofs.Answer
import Proceedings.Proofs.Binary64.Range
import Proceedings.Proofs.Wire.Instant
import Proceedings.Wire.Decode

/-! # Malformed payloads

Decoding refuses malformed payloads by a breach of the contract, except in two cases: a number may
be an integer too great for a binary number, and a time may be an instant outside the calendar.
-/

namespace Proceedings

open Wire

/-- An integer beyond the range of binary numbers. -/
def Value.IsHuge (v : Value) : Prop := ∃ n, v = .int n ∧ 2 ^ 1024 - 2 ^ 970 ≤ n.natAbs

/-- A text of a time with an offset, whose instant is outside the years 1 to 9999. -/
def Value.IsOutsideCalendar (v : Value) : Prop :=
  ∃ t d, v.text? = some t ∧ t ≠ [] ∧ Iso.read (spelledOut t) = .ok d ∧ d.isAware = true ∧ ¬ d.HasUtc

namespace Wire

def HugeConfidence (item : Value) : Prop :=
  (∃ text, field "alternative" item "text" = .ok text) ∧ (optional item "confidence").IsHuge

/-- Speech with a huge confidence or stability and nothing malformed before it. -/
def HugeNumber (data : Value) : Prop :=
  ∃ v items, field "SPEECH event" data "transcript" = .ok v ∧ array "transcript" v = .ok items ∧
    ((∃ before item after, items = before ++ item :: after ∧
        (∀ other ∈ before, ∃ a, parseAlternative other = .ok a) ∧ HugeConfidence item) ∨
      (∀ item ∈ items, ∃ a, parseAlternative item = .ok a) ∧
        (∃ id, field "SPEECH event" data "message_id" = .ok id) ∧
        (optional data "stability").IsHuge)

/-- An event with a time outside the calendar or, in speech, a huge number, and nothing malformed
before it. -/
def EventOutOfRange (message : Value) (f : Failure) : Prop :=
  ∃ data name kind v, unwrapLive message = .ok data ∧ field "event" data "event" = .ok name ∧
    EventKind.ofValue? name = some kind ∧ field "event" data "timestamp" = .ok v ∧
    (f = .dateRange ∧ v.IsOutsideCalendar ∨
      f = .integerRange ∧ kind = .speech ∧ (∃ d, parseInstant v = .ok d) ∧
        (∃ w p, field "event" data "participant" = .ok w ∧ parseParticipant w = .ok p) ∧
        HugeNumber data)

def TranscriptOutOfRange (data : Value) (f : Failure) : Prop :=
  ∃ fields participants events, data = .object fields ∧
    array "initial_participants" (optional data "initial_participants") = .ok participants ∧
    array "events" (optional data "events") = .ok events ∧
    (f = .dateRange ∧ (optional data "start_time").IsOutsideCalendar ∨
      (∃ d, optionalTime (optional data "start_time") = .ok d) ∧
        (f = .dateRange ∧ (optional data "end_time").IsOutsideCalendar ∨
          (∃ d, optionalTime (optional data "end_time") = .ok d) ∧
            (∀ v ∈ participants, ∃ p, parseParticipant v = .ok p) ∧
            ∃ before e after, events = before ++ e :: after ∧
              (∀ other ∈ before, ∃ e, parseEvent other = .ok e) ∧ EventOutOfRange e f))

variable {f : Failure} {v data : Value}

@[simp] theorem not_escapes_field {what name : String} :
    ¬ Escapes (field what data name) f := by
  unfold field
  split
  · split <;> simp
  · simp

@[simp] theorem not_escapes_array {what : String} : ¬ Escapes (array what v) f := by
  unfold array
  split <;> simp

@[simp] theorem not_escapes_unwrapLive : ¬ Escapes (unwrapLive data) f := by
  unfold unwrapLive
  split
  · split <;> simp
  · simp

@[simp] theorem not_escapes_parseParticipant : ¬ Escapes (parseParticipant data) f := by
  simp [parseParticipant, escapes_bind]

theorem isHuge_int {n : Int} : (Value.int n).IsHuge ↔ Binary64.ofInt? n = none := by
  rw [Binary64.ofInt?_eq_none_iff]
  constructor
  · rintro ⟨m, hm, h⟩
    rwa [Value.int.inj hm]
  · exact fun h => ⟨n, rfl, h⟩

theorem escapes_number {what : String} :
    Escapes (number what v) f ↔ f = .integerRange ∧ v.IsHuge := by
  have hint (h : ∀ n, v ≠ .int n) : ¬ v.IsHuge := fun ⟨n, hn, _⟩ => h n hn
  unfold number
  split
  · simp [hint]
  · next n =>
    rw [isHuge_int]
    split
    · next x h => simp [h]
    · next h => simp [h, escapes_error, Failure.IsBreach]
  · simp [hint]
  · next h _ => simp [hint h]

theorem escapes_parseInstant :
    Escapes (parseInstant v) f ↔ f = .dateRange ∧ v.IsOutsideCalendar := by
  unfold parseInstant Value.IsOutsideCalendar
  cases ht : v.text? with
  | none => simp
  | some t =>
    cases t with
    | nil => simp
    | cons p t =>
      cases hread : Iso.read (spelledOut (p :: t)) with
      | error e => simp [parseText, hread]
      | ok d => simp [parseText, hread, escapes_toUtc]

theorem escapes_optionalTime :
    Escapes (optionalTime v) f ↔ f = .dateRange ∧ v.IsOutsideCalendar := by
  unfold optionalTime
  cases h : v.isTruthy with
  | true => simp [escapes_parseInstant]
  | false =>
    have hnot : ¬ v.IsOutsideCalendar := by
      rintro ⟨t, d, ht, hne, -⟩
      cases v <;> simp_all [Value.text?, Value.isTruthy]
    simp [hnot]

theorem escapes_parseAlternative :
    Escapes (parseAlternative v) f ↔ f = .integerRange ∧ HugeConfidence v := by
  simp only [parseAlternative, escapes_bind, not_escapes_field, escapes_number, HugeConfidence,
    pure_eq_ok, not_escapes_ok, and_false, exists_false, or_false, false_or]
  constructor
  · rintro ⟨text, htext, hf, hhuge⟩
    exact ⟨hf, ⟨text, htext⟩, hhuge⟩
  · rintro ⟨hf, ⟨text, htext⟩, hhuge⟩
    exact ⟨text, htext, hf, hhuge⟩

theorem escapes_parseAlternatives {items : List Value} :
    Escapes (items.mapM parseAlternative) f ↔ f = .integerRange ∧
      ∃ before item after, items = before ++ item :: after ∧
        (∀ other ∈ before, ∃ a, parseAlternative other = .ok a) ∧ HugeConfidence item := by
  simp only [escapes_mapM, escapes_parseAlternative]
  constructor
  · rintro ⟨before, item, after, hitems, hok, hf, hhuge⟩
    exact ⟨hf, before, item, after, hitems, hok, hhuge⟩
  · rintro ⟨hf, before, item, after, hitems, hok, hhuge⟩
    exact ⟨before, item, after, hitems, hok, hf, hhuge⟩

theorem escapes_parseResult :
    Escapes (parseResult data) f ↔ f = .integerRange ∧ HugeNumber data := by
  simp only [parseResult, escapes_bind, not_escapes_field, not_escapes_array, escapes_number,
    escapes_parseAlternatives, pure_eq_ok, not_escapes_ok, and_false, exists_false, or_false,
    false_or, HugeNumber, ← exists_mapM_eq_ok]
  constructor
  · rintro ⟨v, hv, items, hitems, ⟨hf, hhuge⟩ | ⟨as, has, id, hid, hf, hhuge⟩⟩
    · exact ⟨hf, v, items, hv, hitems, .inl hhuge⟩
    · exact ⟨hf, v, items, hv, hitems, .inr ⟨⟨as, has⟩, ⟨id, hid⟩, hhuge⟩⟩
  · rintro ⟨hf, v, items, hv, hitems, hhuge | ⟨⟨as, has⟩, ⟨id, hid⟩, hhuge⟩⟩
    · exact ⟨v, hv, items, hitems, .inl ⟨hf, hhuge⟩⟩
    · exact ⟨v, hv, items, hitems, .inr ⟨as, has, id, hid, hf, hhuge⟩⟩

theorem escapes_parseOccurrence {kind : EventKind} :
    Escapes (parseOccurrence data kind) f ↔
      f = .integerRange ∧ kind = .speech ∧ HugeNumber data := by
  cases kind with
  | speech => simp [parseOccurrence, escapes_parseResult]
  | _ => simp [parseOccurrence]

/-- An event is malformed without a breach only by its time or, in speech, by a huge number. -/
theorem escapes_parseEvent : Escapes (parseEvent data) f ↔ EventOutOfRange data f := by
  simp only [parseEvent, escapes_bind, not_escapes_unwrapLive, not_escapes_field, false_or,
    EventOutOfRange]
  constructor
  · rintro ⟨data, hdata, name, hname, h⟩
    split at h
    · next kind hkind =>
      simp only [escapes_bind, not_escapes_field, not_escapes_parseParticipant,
        escapes_parseInstant, escapes_parseOccurrence, pure_eq_ok, not_escapes_ok, false_or,
        and_false, exists_false, or_false] at h
      obtain ⟨v, hv, h | ⟨d, hd, w, hw, p, hp, hf, hspeech, hhuge⟩⟩ := h
      · exact ⟨data, name, kind, v, hdata, hname, hkind, hv, .inl h⟩
      · exact ⟨data, name, kind, v, hdata, hname, hkind, hv,
          .inr ⟨hf, hspeech, ⟨d, hd⟩, ⟨w, p, hw, hp⟩, hhuge⟩⟩
    · exact absurd h not_escapes_breach
  · rintro ⟨data, name, kind, v, hdata, hname, hkind, hv, h⟩
    refine ⟨data, hdata, name, hname, ?_⟩
    simp only [hkind, escapes_bind, not_escapes_field, not_escapes_parseParticipant,
      escapes_parseInstant, escapes_parseOccurrence, pure_eq_ok, not_escapes_ok, false_or,
      and_false, exists_false, or_false]
    rcases h with h | ⟨hf, hspeech, ⟨d, hd⟩, ⟨w, p, hw, hp⟩, hhuge⟩
    · exact ⟨v, hv, .inl h⟩
    · exact ⟨v, hv, .inr ⟨d, hd, w, hw, p, hp, hf, hspeech, hhuge⟩⟩

theorem escapes_parseParticipants {items : List Value} :
    ¬ Escapes (items.mapM fun p => Value.participant <$> parseParticipant p) f := by
  simp [escapes_mapM]

theorem exists_parseParticipants {items : List Value} :
    (∃ r, items.mapM (fun p => Value.participant <$> parseParticipant p) = .ok r) ↔
      ∀ v ∈ items, ∃ p, parseParticipant v = .ok p := by
  simp [exists_mapM_eq_ok]

theorem escapes_parseEvents {items : List Value} :
    Escapes (items.mapM fun e => Value.event <$> parseEvent e) f ↔
      ∃ before e after, items = before ++ e :: after ∧
        (∀ other ∈ before, ∃ e, parseEvent other = .ok e) ∧ EventOutOfRange e f := by
  simp [escapes_mapM, escapes_parseEvent]

theorem escapes_parseTranscript :
    Escapes (parseTranscript data) f ↔ TranscriptOutOfRange data f := by
  unfold parseTranscript TranscriptOutOfRange
  split
  · next fields =>
    simp only [escapes_bind, not_escapes_array, escapes_optionalTime, escapes_parseParticipants,
      escapes_parseEvents, ← exists_parseParticipants, pure_eq_ok, not_escapes_ok, and_false,
      exists_false, or_false, false_or]
    constructor
    · rintro ⟨participants, hparticipants, events, hevents, h⟩
      refine ⟨fields, participants, events, rfl, hparticipants, hevents, ?_⟩
      rcases h with h | ⟨start, hstart, h | ⟨stop, hstop, initial, hinitial, h⟩⟩
      · exact .inl h
      · exact .inr ⟨⟨start, hstart⟩, .inl h⟩
      · exact .inr ⟨⟨start, hstart⟩, .inr ⟨⟨stop, hstop⟩, ⟨initial, hinitial⟩, h⟩⟩
    · rintro ⟨_, participants, events, -, hparticipants, hevents, h⟩
      refine ⟨participants, hparticipants, events, hevents, ?_⟩
      rcases h with h | ⟨⟨start, hstart⟩, h | ⟨⟨stop, hstop⟩, ⟨initial, hinitial⟩, h⟩⟩
      · exact .inl h
      · exact .inr ⟨start, hstart, .inl h⟩
      · exact .inr ⟨start, hstart, .inr ⟨stop, hstop, initial, hinitial, h⟩⟩
  · next hobject =>
    constructor
    · exact fun h => absurd h not_escapes_breach
    · rintro ⟨fields, _, _, hfields, -⟩
      exact absurd hfields (hobject fields)

/-- Decoding fails by a breach of the contract unless a number or a time is out of range: a
participant always, speech, an event and a transcript exactly if no such part comes first. -/
theorem escapes_parse (data : Value) (f : Failure) :
    ¬ Escapes (parseParticipant data) f ∧
    (Escapes (parseResult data) f ↔ f = .integerRange ∧ HugeNumber data) ∧
    (Escapes (parseEvent data) f ↔ EventOutOfRange data f) ∧
    (Escapes (parseTranscript data) f ↔ TranscriptOutOfRange data f) :=
  ⟨not_escapes_parseParticipant, escapes_parseResult, escapes_parseEvent, escapes_parseTranscript⟩

def earlyJoin : Value :=
  .object [(key "event", .str "JOIN"), (key "timestamp", .str "0001-01-01T00:00:00+01:00"),
    (key "participant", .object [(key "id", .str "p1"), (key "name", .str "A")])]

def overconfidentRemark : Value :=
  .object [(key "event", .str "SPEECH"), (key "timestamp", .str "2024-03-01T09:00:00Z"),
    (key "participant", .object [(key "id", .str "p1"), (key "name", .str "A")]),
    (key "message_id", .str "m1"),
    (key "transcript",
      .list [.object [(key "text", .str "hi"), (key "confidence", .int (2 ^ 1024))]])]

theorem isOutsideCalendar_early : (Value.str "0001-01-01T00:00:00+01:00").IsOutsideCalendar := by
  let o : Offset := ⟨3600000000, by decide, by decide⟩
  let d : DateTime := ⟨⟨0, by decide⟩, some o, none⟩
  have htext : spelledOut (Text.ofString "0001-01-01T00:00:00+01:00") =
      Text.ofChars (d.secondsChars 'T' ++ d.fractionChars ++ o.chars) := by cbv
  refine ⟨_, d, rfl, by decide, ?_, rfl, ?_⟩
  · rw [htext]
    exact Iso.read_written d 'T' (Iso.isFraction_fractionChars d) o (by decide)
  · rw [DateTime.hasUtc_iff]
    rintro ⟨n, hn, hrange⟩
    obtain rfl := Option.some.inj hn
    revert hrange
    decide

theorem parseInstant_morning : ∃ d, parseInstant (.str "2024-03-01T09:00:00Z") = .ok d :=
  ⟨morning, parse_morning⟩

/-- Neither payload decodes, and neither failure is a breach of the contract. -/
theorem escapes_parseEvent_out_of_range :
    Escapes (parseEvent earlyJoin) .dateRange ∧
    Escapes (parseEvent overconfidentRemark) .integerRange := by
  rw [escapes_parseEvent, escapes_parseEvent]
  constructor
  · exact ⟨earlyJoin, _, .join, _, rfl, rfl, rfl, rfl, .inl ⟨rfl, isOutsideCalendar_early⟩⟩
  · refine ⟨overconfidentRemark, _, .speech, _, rfl, rfl, rfl, rfl, .inr ?_⟩
    refine ⟨rfl, rfl, parseInstant_morning, ⟨_, _, rfl, rfl⟩, _, _, rfl, rfl, .inl ?_⟩
    refine ⟨[], _, [], rfl, by simp, ⟨_, rfl⟩, _, rfl, ?_⟩
    simp only [Int.natAbs_pow, Int.reduceAbs, Nat.sub_le]

end Wire

end Proceedings
