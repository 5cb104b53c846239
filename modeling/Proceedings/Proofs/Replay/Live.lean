import Proceedings.Proofs.Recorder.Chronology
import Proceedings.Proofs.Replay.Record
import Proceedings.Proofs.Wire.Artifact
import Proceedings.Proofs.Wire.Stable

/-! # Replaying live messages

A session is recorded while its events go out one by one as messages. Decoding a message gives the
normal form of its event, which is encoded like the event and is at the same instant, by a clock
that shows UTC. So a replay of the messages has the encoded events of the session in the order of
their instants; the recorder of the session has them in that order if their times are in step.
-/

namespace Proceedings

open Wire Recorder Replay

theorem DateTime.HasUtc.instant?_utc {d : DateTime} (h : d.HasUtc) :
    d.utc.instant? = d.instant? := by
  obtain ⟨n, u, hn, hu⟩ := h
  have hutc : d.utc = u := by simp [DateTime.utc, hn, hu]
  rw [hutc, hn, (DateTime.ofInstant_eq_some hu).2]

namespace Wire

/-- A message that carries an event: its payload, alone or enveloped. -/
def Carries (e : Event) (message : Value) : Prop :=
  encodeEvent (.event e) = .ok message ∨ encodeLive (.event e) = .ok message

theorem Carries.isEncodable {number : Value → Prop} {e : Event} {message : Value}
    (h : Carries e message) (he : e.IsDeclared number) : e.IsEncodable := by
  rcases h with h | h
  · exact ((encodeEvent_eq_ok he).mp h).1
  · obtain ⟨_, hencode, -⟩ := map_eq_ok.mp h
    exact ((encodeEvent_eq_ok he).mp hencode).1

theorem Carries.parseEvent {e : Event} {message : Value} (h : Carries e message)
    (he : e.IsDeclared Value.IsFloat) : parseEvent message = .ok e.normal := by
  have henc := h.isEncodable he
  rcases h with h | h
  · obtain ⟨-, rfl⟩ := (encodeEvent_eq_ok he).mp h
    exact parseEvent_fields he henc (unwrapLive_fields e)
  · obtain ⟨_, hencode, rfl⟩ := map_eq_ok.mp h
    obtain ⟨-, rfl⟩ := (encodeEvent_eq_ok he).mp hencode
    exact parseEvent_fields he henc (unwrapLive_wrapLive (by simp))

def encodeEvents (t : Transcript) : Except Failure (List Value) := t.events.mapM encodeEvent

/-- The payload of a transcript holds its encoded events, unless there are none. -/
theorem encodeTranscript_events {t : Transcript} {payload : Value}
    (h : encodeTranscript (.transcript t) = .ok payload) :
    ∃ items, encodeEvents t = .ok items ∧
      optional payload "events" = if items = [] then .null else .list items := by
  obtain ⟨hassembled, hencodable, rfl⟩ := encodeTranscript_spec h
  obtain ⟨-, -, -, -, hget⟩ := get?_transcript t
  refine ⟨_, (encodeEvents_eq_ok hassembled).mpr ⟨hencodable.events, rfl⟩, ?_⟩
  rw [optional, hget, get?_present_list]
  split <;> rfl

end Wire

section

variable {es : List Event} {messages : List Value}

theorem isEncodable_of_carries {number : Value → Prop} (hdeclared : ∀ e ∈ es, e.IsDeclared number)
    (h : List.Forall₂ Carries es messages) : ∀ e ∈ es, e.IsEncodable := by
  induction h with
  | nil => nofun
  | cons hcarries _ ih =>
    obtain ⟨he, hes⟩ := List.forall_mem_cons.mp hdeclared
    exact List.forall_mem_cons.mpr ⟨hcarries.isEncodable he, ih hes⟩

theorem parse_messages (hdeclared : ∀ e ∈ es, e.IsDeclared Value.IsFloat)
    (h : List.Forall₂ Carries es messages) :
    messages.mapM parseEvent = .ok (es.map Event.normal) := by
  rw [mapM_eq_ok_iff, List.forall₂_map_right_iff]
  induction h with
  | nil => exact .nil
  | cons hcarries _ ih =>
    obtain ⟨he, hes⟩ := List.forall_mem_cons.mp hdeclared
    exact .cons (hcarries.parseEvent he) (ih hes)

/-- Normal forms are put in the order of the instants, whatever the times of their events. -/
theorem chronological_normal {events : List Event} (h : ∀ e ∈ es, e.timestamp.HasUtc)
    (hevents : IsChronological es events) :
    chronological (es.map Event.normal) = events.map Event.normal := by
  have hstep : DateTime.AreInStep ((es.map Event.normal).map (·.timestamp)) := by
    refine .of_utc (List.forall_mem_map.mpr (List.forall_mem_map.mpr fun e he => ?_))
    exact utc_utc (h e he)
  exact (isChronological_chronological hstep).unique (List.forall_mem_map.mp hstep.isAware)
    (hevents.map fun e he => (h e he).instant?_utc)

theorem encodeEvents_map {events : List Event} {g : Event → Event} {r : Recorder}
    (hr : chronological r.events = events.map g)
    (h : ∀ e ∈ events, encodeEvent (.event (g e)) = .ok (.object e.fields)) :
    encodeEvents r.freeze = .ok (events.map fun e => .object e.fields) := by
  have hfrozen : r.freeze.events = events.map fun e => .event (g e) := by
    rw [freeze, hr, List.map_map]
    rfl
  rw [encodeEvents, hfrozen, List.mapM_map]
  exact mapM_ok h

theorem encodeEvents_recorded {live : Recorder}
    (hdeclared : ∀ e ∈ es, e.IsDeclared Value.IsFloat) (henc : ∀ e ∈ es, e.IsEncodable)
    (hlive : live.events = es) :
    encodeEvents live.freeze = .ok ((chronological es).map fun e => .object e.fields) := by
  refine encodeEvents_map (g := id) (by rw [List.map_id, hlive]) fun e he => ?_
  have hmem := (chronological_perm es).mem_iff.mp he
  exact (encodeEvent_eq_ok (hdeclared e hmem)).mpr ⟨henc e hmem, rfl⟩

theorem encodeEvents_replayed {replayed : Recorder} {events : List Event}
    (hdeclared : ∀ e ∈ es, e.IsDeclared Value.IsFloat) (henc : ∀ e ∈ es, e.IsEncodable)
    (hreplayed : replayed.events = es.map Event.normal) (hevents : IsChronological es events) :
    encodeEvents replayed.freeze = .ok (events.map fun e => .object e.fields) := by
  refine encodeEvents_map (g := Event.normal) ?_ fun e he => ?_
  · rw [hreplayed]
    exact chronological_normal (fun e he => (henc e he).timestamp) hevents
  · have hmem := hevents.perm.mem_iff.mp he
    exact Event.encodeEvent_normal (hdeclared e hmem) (henc e hmem)

theorem isSpellable_events {events : List Event}
    (hdeclared : ∀ e ∈ events, e.IsDeclared Value.IsFloat) :
    (Value.list (events.map fun e => .object e.fields)).IsSpellable Json.words := by
  have hfloat (v : Value) (hv : v.IsFloat) : v.IsSpellable Json.words := by
    obtain ⟨x, rfl⟩ := hv
    exact Json.isSpellable_float x
  refine .list fun v hv => ?_
  obtain ⟨e, he, rfl⟩ := List.mem_map.mp hv
  exact (hdeclared e he).isSpellable hfloat

/-- A recorder of the events of a session, and a replay of the messages that carry them. -/
structure Replays (es : List Event) (messages : List Value) (live replay : Recorder) : Prop where
  declared : ∀ e ∈ es, e.IsDeclared Value.IsFloat
  carries : List.Forall₂ Carries es messages
  live : ∃ room c, live = (performAll (es.map fun e => .addEvent (.event e)) (new room, c)).1
  replay : ∃ (room : Value) (participants : List Value) (initial : List Participant)
    (events : List Event), participants.mapM parseParticipant = .ok initial ∧
      messages.mapM parseEvent = .ok events ∧ replay = record room events initial

namespace Replays

variable {live replay : Recorder}

theorem isEncodable (h : Replays es messages live replay) : ∀ e ∈ es, e.IsEncodable :=
  isEncodable_of_carries h.declared h.carries

theorem encodeEvents_live (h : Replays es messages live replay) :
    encodeEvents live.freeze = .ok ((chronological es).map fun e => .object e.fields) := by
  obtain ⟨room, c, rfl⟩ := h.live
  have haware : ∀ e ∈ es, e.timestamp.isAware = true := fun e he =>
    (h.isEncodable e he).timestamp.isAware
  have hstate := (accepts_addEvents haware (new room) c).performAll_eq
  refine encodeEvents_recorded h.declared h.isEncodable ?_
  rw [hstate]
  rfl

theorem isAware_normal (h : Replays es messages live replay) :
    ∀ f ∈ es.map Event.normal, f.timestamp.isAware = true :=
  List.forall_mem_map.mpr fun e he => (utc_utc (h.isEncodable e he).timestamp).1.isAware

theorem encodeEvents_replay {events : List Event} (h : Replays es messages live replay)
    (hevents : IsChronological es events) :
    encodeEvents replay.freeze = .ok (events.map fun e => .object e.fields) := by
  obtain ⟨room, participants, initial, read, hinitial, hread, rfl⟩ := h.replay
  obtain rfl := Except.ok.inj ((parse_messages h.declared h.carries).symm.trans hread)
  obtain ⟨⟨start, stop, hrecord⟩, -⟩ :=
    record_spec room h.isAware_normal (hashable_of_parse hinitial)
  refine encodeEvents_replayed h.declared h.isEncodable ?_ hevents
  rw [hrecord]

theorem exists_sorted (h : Replays es messages live replay) :
    ∃ sorted, IsChronological es sorted ∧
      encodeEvents replay.freeze = .ok (sorted.map fun e => .object e.fields) := by
  have haware : ∀ e ∈ es, e.timestamp.isAware = true := fun e he =>
    (h.isEncodable e he).timestamp.isAware
  exact ⟨_, isChronological_sort haware, h.encodeEvents_replay (isChronological_sort haware)⟩

end Replays

def eventsText (r : Recorder) : Except Failure Text :=
  encodeEvents r.freeze >>= fun items => serialize (.list items)

theorem exists_eventsText {r : Recorder} {events : List Event} (hperm : events.Perm es)
    (hdeclared : ∀ e ∈ es, e.IsDeclared Value.IsFloat)
    (h : encodeEvents r.freeze = .ok (events.map fun e => .object e.fields)) :
    ∃ text, eventsText r = .ok text ∧
      Json.read text = .ok (.list (events.map fun e => .object e.fields)) := by
  have hspellable := isSpellable_events fun e he => hdeclared e (hperm.mem_iff.mp he)
  obtain ⟨text, htext, hread⟩ := hspellable.exists_text
  refine ⟨text, ?_, hread⟩
  rw [eventsText, h, ok_bind, htext]

/-- Sessions whose events are at certain times are replayed with the same text. -/
def ReplaysLive (times : DateTime → Prop) : Prop :=
  ∀ es messages live replay, (∀ e ∈ es, times e.timestamp) → Replays es messages live replay →
    eventsText replay = eventsText live

theorem replaysLive_of_inStep {times : DateTime → Prop}
    (h : ∀ d e, times d → times e → d.HasUtc → e.HasUtc → d.InStep e) : ReplaysLive times := by
  intro es messages live replay htimes hreplays
  have hutc : ∀ e ∈ es, e.timestamp.HasUtc := fun e he => (hreplays.isEncodable e he).timestamp
  have hsorted : IsChronological es (chronological es) :=
    isChronological_chronological (Event.areInStep_timestamps (fun e he => (hutc e he).isAware)
      fun e he f hf => h _ _ (htimes e he) (htimes f hf) (hutc e he) (hutc f hf))
  rw [eventsText, eventsText, hreplays.encodeEvents_live, hreplays.encodeEvents_replay hsorted]

def visit (d e : DateTime) : List Event := [⟨d, quietGuest, .join⟩, ⟨e, quietGuest, .leave⟩]

theorem declared_visit (d e : DateTime) : ∀ f ∈ visit d e, f.IsDeclared Value.IsFloat := by
  simp only [visit, List.forall_mem_cons]
  exact ⟨⟨quietGuest_declared, nofun⟩, ⟨quietGuest_declared, nofun⟩, nofun⟩

theorem exists_replays_visit {d e : DateTime} (hd : d.HasUtc) (he : e.HasUtc) :
    ∃ messages live replay, Replays (visit d e) messages live replay := by
  have hid : quietGuest.id.IsPresent := isPresent_str (by decide)
  have henc : ∀ f ∈ visit d e, f.IsEncodable := by
    simp only [visit, List.forall_mem_cons]
    exact ⟨⟨hd, hid, nofun⟩, ⟨he, hid, nofun⟩, nofun⟩
  have hcarries : List.Forall₂ Carries (visit d e)
      ((visit d e).map fun f => .object f.fields) := by
    rw [List.forall₂_map_right_iff]
    refine List.forall₂_same.mpr fun f hf => ?_
    exact .inl ((encodeEvent_eq_ok (declared_visit d e f hf)).mpr ⟨henc f hf, rfl⟩)
  exact ⟨_, _, _, declared_visit d e, hcarries, ⟨.null, .ofList [], rfl⟩,
    .null, [], [], _, rfl, parse_messages (declared_visit d e) hcarries, rfl⟩

theorem fields_ne_of_visit (d e : DateTime) :
    (visit d e).map (fun f => Value.object f.fields) ≠
      (visit d e).reverse.map fun f => .object f.fields := by
  have hkind : EventKind.join.text ≠ EventKind.leave.text := by decide
  simp [visit, Event.fields, Event.description, Event.kind, Occurrence.kind, hkind]

/-- If the text of each visit is that of its replay, the times are in step. -/
theorem inStep_of_replaysLive {times : DateTime → Prop} (h : ReplaysLive times) {d e : DateTime}
    (hd : times d) (he : times e) (hdu : d.HasUtc) (heu : e.HasUtc) : d.InStep e := by
  obtain ⟨messages, live, replay, hreplays⟩ := exists_replays_visit heu hdu
  obtain ⟨sorted, hsorted, hencoded⟩ := hreplays.exists_sorted
  have hperm := chronological_perm (visit e d)
  obtain ⟨text, htext, hread⟩ :=
    exists_eventsText hperm hreplays.declared hreplays.encodeEvents_live
  obtain ⟨text', htext', hread'⟩ :=
    exists_eventsText hsorted.perm hreplays.declared hencoded
  have htimes : ∀ f ∈ visit e d, times f.timestamp :=
    List.forall_mem_cons.mpr ⟨he, List.forall_mem_singleton.mpr hd⟩
  obtain rfl : text' = text :=
    Except.ok.inj (htext'.symm.trans ((h _ _ _ _ htimes hreplays).trans htext))
  have hsame := Value.list.inj (Except.ok.inj (hread.symm.trans hread'))
  -- What joins is told from what leaves, so the events are in one order.
  have hchronological : chronological (visit e d) = sorted := by
    rcases List.perm_pair.mp hperm with hlive | hlive <;>
      rcases List.perm_pair.mp hsorted.perm with hreplay | hreplay <;>
      rw [hlive, hreplay] at hsame ⊢
    · exact absurd hsame (fields_ne_of_visit e d)
    · exact absurd hsame.symm (fields_ne_of_visit e d)
  exact inStep_of_pair (hchronological ▸ hsorted)

/-- Messages that carry the events of a session, in the order in which they were recorded, can all
be replayed. The replay has the encoded events of the session in the order of their instants, and
the session has them as it sorts the events. So the texts are the same, whatever events are
recorded, if and only if their times are in step. -/
theorem replay_live (times : DateTime → Prop) :
    (∀ (es : List Event) (messages participants : List Value) (initial : List Participant)
      (room room' : Value) (c : Clock), (∀ e ∈ es, e.IsDeclared Value.IsFloat) →
      List.Forall₂ Carries es messages → participants.mapM parseParticipant = .ok initial →
      let adds := es.map fun e => RecorderCall.addEvent (.event e)
      let live := (performAll adds (new room, c)).1
      returned adds (new room, c) = es ∧
      ∃ events, messages.mapM parseEvent = .ok events ∧
        refusals (calls events initial) (new room', .ofList []) = [] ∧
        let replay := record room' events initial
        Replays es messages live replay ∧ ∃ sorted, IsChronological es sorted ∧
          encodeEvents replay.freeze = .ok (sorted.map fun e => .object e.fields) ∧
          encodeEvents live.freeze = .ok ((chronological es).map fun e => .object e.fields) ∧
          ∀ r ∈ [live, replay], (∃ text, eventsText r = .ok text) ∧
            ∀ payload, encodeTranscript (.transcript r.freeze) = .ok payload →
              ∃ items, encodeEvents r.freeze = .ok items ∧
                optional payload "events" = if items = [] then .null else .list items) ∧
    (ReplaysLive times ↔ ∀ d e, times d → times e → d.HasUtc → e.HasUtc → d.InStep e) := by
  refine ⟨?_, fun h d e hd he => inStep_of_replaysLive h hd he, replaysLive_of_inStep⟩
  intro es messages participants initial room room' c hdeclared hmessages hinitial adds live
  have henc := isEncodable_of_carries hdeclared hmessages
  have hreplays : Replays es messages live (record room' (es.map Event.normal) initial) :=
    ⟨hdeclared, hmessages, ⟨room, c, rfl⟩, room', participants, initial, _, hinitial,
      parse_messages hdeclared hmessages, rfl⟩
  obtain ⟨sorted, hsorted, hencoded⟩ := hreplays.exists_sorted
  refine ⟨returned_addEvents (fun e he => (henc e he).timestamp.isAware) room c, _,
    parse_messages hdeclared hmessages, ?_, hreplays, sorted, hsorted, hencoded,
    hreplays.encodeEvents_live, ?_⟩
  · exact (record_spec room' hreplays.isAware_normal (hashable_of_parse hinitial)).2
  · intro r hr
    have htext : ∃ text, eventsText r = .ok text := by
      simp only [List.mem_cons, List.not_mem_nil, or_false] at hr
      rcases hr with rfl | rfl
      · obtain ⟨text, htext, -⟩ := exists_eventsText (chronological_perm es) hdeclared
          hreplays.encodeEvents_live
        exact ⟨text, htext⟩
      · obtain ⟨text, htext, -⟩ := exists_eventsText hsorted.perm hdeclared hencoded
        exact ⟨text, htext⟩
    exact ⟨htext, fun payload hpayload => encodeTranscript_events hpayload⟩

/-- On the night when the clocks of Berlin are set back, a guest joins at half past two and leaves
at ten past two, forty minutes later: the session has this the other way round, and its replay as it
was. -/
theorem not_replaysLive_berlin :
    let es := visit .halfPastTwo .tenPastTwo
    ∃ messages live replay, Replays es messages live replay ∧
      encodeEvents live.freeze = .ok (es.reverse.map fun e => .object e.fields) ∧
      encodeEvents replay.freeze = .ok (es.map fun e => .object e.fields) ∧
      eventsText replay ≠ eventsText live := by
  intro es
  have hfirst : DateTime.halfPastTwo.HasUtc := ⟨_, _, rfl, rfl⟩
  have hsecond : DateTime.tenPastTwo.HasUtc := ⟨_, _, rfl, rfl⟩
  obtain ⟨messages, live, replay, hreplays⟩ := exists_replays_visit hfirst hsecond
  have hchron : IsChronological es es :=
    ⟨.refl es, List.pairwise_pair.mpr ⟨_, _, rfl, rfl, by decide⟩, fun _ => rfl⟩
  have hlive := hreplays.encodeEvents_live
  rw [visit, chronological_pair, if_pos (by decide)] at hlive
  have hreplay := hreplays.encodeEvents_replay hchron
  refine ⟨messages, live, replay, hreplays, hlive, hreplay, fun h => ?_⟩
  obtain ⟨text, htext, hread⟩ := exists_eventsText es.reverse_perm hreplays.declared hlive
  obtain ⟨text', htext', hread'⟩ := exists_eventsText (.refl es) hreplays.declared hreplay
  obtain rfl : text' = text := Except.ok.inj (htext'.symm.trans (h.trans htext))
  exact fields_ne_of_visit _ _ (Value.list.inj (Except.ok.inj (hread'.symm.trans hread)))

end

def arrival : Event := ⟨⟨⟨63869990000000000, by decide⟩, some .utc, none⟩, quietGuest, .join⟩

theorem arrival_declared : arrival.IsDeclared Value.IsFloat := ⟨quietGuest_declared, nofun⟩

theorem replay_live_remark :
    ∃ remarkMessage arrivalMessage,
      List.Forall₂ Carries [remark, arrival] [remarkMessage, arrivalMessage] ∧
      ∃ events, [remarkMessage, arrivalMessage].mapM parseEvent = .ok events ∧
        ∃ items text, encodeEvents (record .null events []).freeze = .ok items ∧
          serialize (.list items) = .ok text := by
  have hremark : encodeLive (.event remark) = .ok (wrapLive (.object remark.fields)) := by cbv
  have harrival : encodeEvent (.event arrival) = .ok (.object arrival.fields) := by cbv
  have hcarries : List.Forall₂ Carries [remark, arrival]
      [wrapLive (.object remark.fields), .object arrival.fields] :=
    .cons (.inr hremark) (.cons (.inl harrival) .nil)
  have hdeclared : ∀ e ∈ [remark, arrival], e.IsDeclared Value.IsFloat := by
    intro e he
    rcases List.mem_cons.mp he with rfl | he
    · exact remark_declared
    · obtain rfl := List.mem_singleton.mp he
      exact arrival_declared
  have hinitial : ([] : List Value).mapM parseParticipant = .ok [] := rfl
  obtain ⟨hreplay, -⟩ := replay_live fun _ => True
  obtain ⟨-, events, hevents, -, -, sorted, -, hitems, -, htexts⟩ :=
    hreplay _ _ _ _ .null .null (.ofList []) hdeclared hcarries hinitial
  obtain ⟨⟨text, htext⟩, -⟩ := htexts (record .null events []) (by simp)
  rw [eventsText, hitems] at htext
  exact ⟨_, _, hcarries, events, hevents, _, text, hitems, htext⟩

end Proceedings
