import Proceedings.Proofs.Replay.Arrival
import Proceedings.Proofs.Wire.Proper

/-! # The ends of a replay

A replay is marked with the earliest and the latest time of its log, whatever the order of the
events there. These are at the instants of the first and the last event once the events are put in
order, and one instant has one text: an artifact starts and ends with what is written at its first
and its last event.
-/

namespace Proceedings

open Wire

def Value.timestamp? : Value → Option Value
  | .object fields => Fields.get? fields (key "timestamp")
  | _ => none

namespace Recorder

variable {recorded sorted : List Event} {f : Event}

theorem IsChronological.head_le (h : IsChronological recorded sorted)
    (haware : ∀ e ∈ recorded, e.timestamp.isAware = true) (hf : sorted.head? = some f) :
    f ∈ recorded ∧ ∀ e ∈ recorded, f.instant ≤ e.instant := by
  obtain ⟨rest, rfl⟩ := List.head?_eq_some_iff.mp hf
  have hmem : f ∈ recorded := h.perm.mem_iff.mp List.mem_cons_self
  refine ⟨hmem, ?_⟩
  intro e he
  rcases List.mem_cons.mp (h.perm.mem_iff.mpr he) with rfl | hrest
  · exact le_rfl
  · have hafter := List.rel_of_pairwise_cons h.sorted hrest
    exact (Event.notAfter_iff (haware f hmem) (haware e he)).mp hafter

theorem IsChronological.le_last (h : IsChronological recorded sorted)
    (haware : ∀ e ∈ recorded, e.timestamp.isAware = true) (hf : sorted.getLast? = some f) :
    f ∈ recorded ∧ ∀ e ∈ recorded, e.instant ≤ f.instant := by
  obtain ⟨front, rfl⟩ := List.getLast?_eq_some_iff.mp hf
  have hmem : f ∈ recorded := h.perm.mem_iff.mp (by simp)
  refine ⟨hmem, ?_⟩
  intro e he
  rcases List.mem_append.mp (h.perm.mem_iff.mpr he) with hfront | hlast
  · have hafter := (List.pairwise_append.mp h.sorted).2.2 e hfront f List.mem_cons_self
    exact (Event.notAfter_iff (haware e he) (haware f hmem)).mp hafter
  · rw [List.mem_singleton.mp hlast]

theorem IsChronological.ne_nil (h : IsChronological recorded sorted) (hne : recorded ≠ []) :
    sorted ≠ [] := by
  rintro rfl
  exact hne h.perm.symm.eq_nil

end Recorder

namespace Replay

open Recorder

variable {e f : Event} {rest sorted : List Event} {t : Transcript}

section Times

theorem key_least (key : DateTime → Int) (hf : f ∈ e :: rest)
    (hle : ∀ g ∈ e :: rest, key f.timestamp ≤ key g.timestamp) :
    key (least key e.timestamp (rest.map (·.timestamp))) = key f.timestamp := by
  obtain ⟨hleast, hfind⟩ := least_spec key e.timestamp (rest.map (·.timestamp))
  have hmem := List.mem_of_find?_eq_some hfind
  rw [← List.map_cons (f := fun e : Event => e.timestamp)] at hleast hmem
  obtain ⟨g, hg, htime⟩ := List.mem_map.mp hmem
  refine le_antisymm (hleast _ (List.mem_map_of_mem hf)) ?_
  rw [← htime]
  exact hle g hg

variable (hstep : DateTime.AreInStep ((e :: rest).map (·.timestamp)))

include hstep

theorem instant_earliest (h : IsChronological (e :: rest) sorted) (hf : sorted.head? = some f) :
    instant (earliest e.timestamp (rest.map (·.timestamp))) = f.instant := by
  obtain ⟨hmem, hle⟩ := h.head_le (List.forall_mem_map.mp hstep.isAware) hf
  rw [earliest_eq_least hstep]
  exact key_least instant hmem hle

theorem instant_latest (h : IsChronological (e :: rest) sorted) (hf : sorted.getLast? = some f) :
    instant (latest e.timestamp (rest.map (·.timestamp))) = f.instant := by
  obtain ⟨hmem, hle⟩ := h.le_last (List.forall_mem_map.mp hstep.isAware) hf
  rw [latest_eq_least hstep]
  have hkey := key_least (fun x => -instant x) hmem fun g hg => Int.neg_le_neg (hle g hg)
  exact Int.neg_inj.mp hkey

end Times

section Artifact

theorem canonicalText_eq_of_instant {u v : DateTime} (hu : u.HasUtc) (hv : v.HasUtc)
    (h : instant u = instant v) : u.canonicalText = v.canonicalText := by
  obtain ⟨m, hm⟩ := DateTime.isAware_iff.mp hu.isAware
  obtain ⟨n, hn⟩ := DateTime.isAware_iff.mp hv.isAware
  rw [canonicalText_eq_iff hu hv, hm, hn]
  simpa [instant, hm, hn] using h

theorem timestamp?_eventPayload (e : Event) :
    (Value.event e).eventPayload.timestamp? = some (.text e.timestamp.canonicalText) :=
  (get?_event e).2.1

theorem get?_timeField (name : String) (d : DateTime) :
    (timeField name (.time d)).get? (key name) = some (.text d.canonicalText) := by
  simp [timeField, Fields.get?_cons]

variable {room : Value} {events : List Event} {initial : List Participant}

theorem exists_people (haware : ∀ e ∈ events, e.timestamp.isAware = true)
    (hids : ∀ p ∈ initial, p.HasTextId) (ht : t = (record room events initial).freeze)
    (hassembled : t.IsAssembled) (hencodable : t.IsEncodable) :
    ∃ kept people, KeepsFirst initial kept ∧
      (kept.map .participant).mapM encodeParticipant = .ok people ∧
      t.fields.get? (key "initial_participants") =
        if people = [] then none else some (.list people) := by
  obtain ⟨⟨start, stop, hrecord⟩, -⟩ :=
    record_spec room haware fun p hp => (hids p hp).unhashable?_eq
  have hinitial : t.initialParticipants = (initial.foldl meet []).map .participant := by
    rw [ht, hrecord]
    rfl
  have hpeople := (encodeInitial_eq_ok hassembled).mpr ⟨hencodable.participantId, rfl⟩
  obtain ⟨-, -, -, hget, -⟩ := get?_transcript t
  rw [get?_present_list] at hget
  rw [hinitial] at hpeople hget
  exact ⟨_, _, keepsFirst_foldl_meet initial hids, hpeople, hget⟩

/-- The events in the artifact of a recorder are in chronological order, and each bears the text of
its instant. -/
theorem exists_items {r : Recorder} (hassembled : r.freeze.IsAssembled)
    (hencodable : r.freeze.IsEncodable) :
    ∃ items, ((chronological r.events).map .event).mapM encodeEvent = .ok items ∧
      r.freeze.fields.get? (key "events") = (if items = [] then none else some (.list items)) ∧
      items.map Value.timestamp? =
        (chronological r.events).map fun e => some (.text e.timestamp.canonicalText) := by
  refine ⟨_, (encodeEvents_eq_ok hassembled).mpr ⟨hencodable.events, rfl⟩, ?_, ?_⟩
  · obtain ⟨-, -, -, -, hget⟩ := get?_transcript r.freeze
    rw [hget, get?_present_list]
  · rw [List.map_map, freeze, List.map_map]
    exact List.map_congr_left fun e _ => timestamp?_eventPayload e

/-- The start and the end in the artifact of a replay are written as the first and the last event in
chronological order bear them. -/
theorem get?_bounds (hstep : DateTime.AreInStep ((e :: rest).map (·.timestamp)))
    (hids : ∀ p ∈ initial, p.id.unhashable? = none)
    (ht : t = (record room (e :: rest) initial).freeze) (hencodable : t.IsEncodable)
    (h : IsChronological (e :: rest) sorted) :
    (t.fields.get? (key "start_time") =
        sorted.head?.map fun f => .text f.timestamp.canonicalText) ∧
      t.fields.get? (key "end_time") =
        sorted.getLast?.map fun f => .text f.timestamp.canonicalText := by
  have haware := List.forall_mem_map.mp hstep.isAware
  obtain ⟨hrecord, -⟩ := record_cons room haware hids
  have hstart : t.startTime = .time (earliest e.timestamp (rest.map (·.timestamp))) := by
    rw [ht, hrecord]
    rfl
  have hstop : t.endTime = .time (latest e.timestamp (rest.map (·.timestamp))) := by
    rw [ht, hrecord]
    rfl
  have hutc : ∀ f ∈ e :: rest, f.timestamp.HasUtc := by
    intro f hf
    refine (hencodable.events f ?_).timestamp
    rw [ht, hrecord]
    exact List.mem_map_of_mem ((chronological_perm _).mem_iff.mpr hf)
  have hne := h.ne_nil (List.cons_ne_nil e rest)
  have hfirst := List.head?_eq_some_head hne
  have hlast := List.getLast?_eq_some_getLast hne
  obtain ⟨-, hgetStart, hgetStop, -, -⟩ := get?_transcript t
  constructor
  · rw [hgetStart, hstart, get?_timeField, hfirst, Option.map_some]
    rw [canonicalText_eq_of_instant (hencodable.startTime _ hstart)
      (hutc _ (h.head_le haware hfirst).1) (instant_earliest hstep h hfirst)]
  · rw [hgetStop, hstop, get?_timeField, hlast, Option.map_some]
    rw [canonicalText_eq_of_instant (hencodable.endTime _ hstop)
      (hutc _ (h.le_last haware hlast).1) (instant_latest hstep h hlast)]

theorem get?_bounds_nil (hids : ∀ p ∈ initial, p.id.unhashable? = none) :
    let fields := (record room [] initial).freeze.fields
    fields.get? (key "events") = none ∧ fields.get? (key "start_time") = none ∧
      fields.get? (key "end_time") = none := by
  obtain ⟨-, hstart, hstop, -, hevents⟩ := get?_transcript (record room [] initial).freeze
  rw [(record_nil room hids).1] at hstart hstop hevents ⊢
  refine ⟨?_, hstart, hstop⟩
  rw [hevents, get?_present_list, freeze, (chronological_perm []).eq_nil]
  rfl

theorem exists_first {items : List Value}
    (htimes : items.map Value.timestamp? =
      sorted.map fun e => some (.text e.timestamp.canonicalText)) (hf : sorted.head? = some f) :
    ∃ first, items.head? = some first ∧
      first.timestamp? = some (.text f.timestamp.canonicalText) := by
  have hheads := congrArg List.head? htimes
  rw [List.head?_map, List.head?_map, hf] at hheads
  exact Option.map_eq_some_iff.mp hheads

theorem exists_last {items : List Value}
    (htimes : items.map Value.timestamp? =
      sorted.map fun e => some (.text e.timestamp.canonicalText)) (hf : sorted.getLast? = some f) :
    ∃ last, items.getLast? = some last ∧
      last.timestamp? = some (.text f.timestamp.canonicalText) := by
  have hlasts := congrArg List.getLast? htimes
  rw [List.getLast?_map, List.getLast?_map, hf] at hlasts
  exact Option.map_eq_some_iff.mp hlasts

theorem exists_ends {items : List Value}
    (hstep : DateTime.AreInStep ((e :: rest).map (·.timestamp)))
    (hids : ∀ p ∈ initial, p.id.unhashable? = none)
    (ht : t = (record room (e :: rest) initial).freeze) (hencodable : t.IsEncodable)
    (h : IsChronological (e :: rest) sorted)
    (htimes : items.map Value.timestamp? =
      sorted.map fun e => some (.text e.timestamp.canonicalText)) :
    ∃ first last start stop, items.head? = some first ∧ items.getLast? = some last ∧
      first.timestamp? = some (.text start) ∧ last.timestamp? = some (.text stop) ∧
      t.fields.get? (key "start_time") = some (.text start) ∧
      t.fields.get? (key "end_time") = some (.text stop) := by
  obtain ⟨hgetStart, hgetStop⟩ := get?_bounds hstep hids ht hencodable h
  have hne := h.ne_nil (List.cons_ne_nil e rest)
  have hfirst := List.head?_eq_some_head hne
  have hlast := List.getLast?_eq_some_getLast hne
  obtain ⟨first, hhead, hstart⟩ := exists_first htimes hfirst
  obtain ⟨last, htail, hstop⟩ := exists_last htimes hlast
  rw [hfirst] at hgetStart
  rw [hlast] at hgetStop
  exact ⟨first, last, _, _, hhead, htail, hstart, hstop, hgetStart, hgetStop⟩

theorem hasTextId_of_parse {participants : List Value}
    (h : participants.mapM parseParticipant = .ok initial) : ∀ p ∈ initial, p.HasTextId := by
  intro p hp
  obtain ⟨t, ht⟩ := exists_textId_of_parse h p hp
  refine .inr ⟨t, ?_⟩
  rw [Participant.idText, ht]
  rfl

/-- If a replay of what was read from a log has an artifact, the events there are in chronological
order, those of one instant as they are in the log, and the initial participants are the first with
each id. What is written for the start and the end is what is written at the first event and at the
last; without events neither is there. -/
theorem ends_of_replay (room : Value) {values participants : List Value} {payload : Value}
    (hvalues : values.mapM parseEvent = .ok events)
    (hparticipants : participants.mapM parseParticipant = .ok initial)
    (h : encodeTranscript (.transcript (record room events initial).freeze) = .ok payload) :
    ∃ (fields : Fields) (items people : List Value), payload = .object fields ∧
      (∃ sorted, IsChronological events sorted ∧
        (sorted.map .event).mapM encodeEvent = .ok items) ∧
      (∃ kept, KeepsFirst initial kept ∧
        (kept.map .participant).mapM encodeParticipant = .ok people) ∧
      fields.get? (key "initial_participants") =
        (if people = [] then none else some (.list people)) ∧
      (events = [] → fields.get? (key "events") = none ∧ fields.get? (key "start_time") = none ∧
        fields.get? (key "end_time") = none) ∧
      (events ≠ [] → fields.get? (key "events") = some (.list items) ∧
        ∃ first last start stop, items.head? = some first ∧ items.getLast? = some last ∧
          first.timestamp? = some (.text start) ∧ last.timestamp? = some (.text stop) ∧
          fields.get? (key "start_time") = some (.text start) ∧
          fields.get? (key "end_time") = some (.text stop)) := by
  have hstep := areInStep_of_parse hvalues
  have haware := List.forall_mem_map.mp hstep.isAware
  have hids := hasTextId_of_parse hparticipants
  have hhashable : ∀ p ∈ initial, p.id.unhashable? = none := fun p hp => (hids p hp).unhashable?_eq
  obtain ⟨hassembled, hencodable, rfl⟩ := encodeTranscript_spec h
  obtain ⟨kept, people, hkept, hpeople, hgetPeople⟩ :=
    exists_people haware hids rfl hassembled hencodable
  obtain ⟨items, hitems, hgetItems, htimes⟩ := exists_items hassembled hencodable
  have hrecorded : (record room events initial).events = events := by
    obtain ⟨⟨start, stop, hrecord⟩, -⟩ := record_spec room haware hhashable
    rw [hrecord]
  rw [hrecorded] at hitems htimes
  have hchron := isChronological_chronological hstep
  refine ⟨_, items, people, rfl, ⟨_, hchron, hitems⟩, ⟨kept, hkept, hpeople⟩, hgetPeople, ?_, ?_⟩
  · rintro rfl
    exact get?_bounds_nil hhashable
  · intro hne
    obtain ⟨e, rest, rfl⟩ := List.exists_cons_of_ne_nil hne
    have hends := exists_ends hstep hhashable rfl hencodable hchron htimes
    refine ⟨?_, hends⟩
    obtain ⟨first, -, -, -, hhead, -⟩ := hends
    rw [hgetItems, if_neg]
    rintro rfl
    cases hhead

/-- Someone else with the id of the host. -/
def namesake : Participant := ⟨.str "B", .str "p1", .null, .null⟩

def hosts : List Value :=
  [.object [(key "id", .str "p1"), (key "name", .str "A")],
    .object [(key "id", .str "p1"), (key "name", .str "B")]]

theorem parse_hosts : hosts.mapM parseParticipant = .ok [host, namesake] := by cbv

theorem exists_encode_leaving : ∃ payload,
    encodeTranscript (.transcript (record .null [leaving, coming] [host, namesake]).freeze) =
      .ok payload := by
  have h : (encodeTranscript
      (.transcript (record .null [leaving, coming] [host, namesake]).freeze)).isOk = true := by cbv
  revert h
  generalize encodeTranscript _ = x
  cases x with
  | ok payload => exact fun _ => ⟨payload, rfl⟩
  | error f => exact fun h => Bool.noConfusion h

/-- A log in which someone leaves before coming, with the host on the list twice. -/
theorem ends_of_replay_leaving :
    ([.object leavingFields, .object comingFields] : List Value).mapM parseEvent =
        .ok [leaving, coming] ∧
      hosts.mapM parseParticipant = .ok [host, namesake] ∧
      ∃ (payload : Value) (fields : Fields) (people : List Value) (first last : Value)
        (start stop : Text),
        encodeTranscript (.transcript (record .null [leaving, coming] [host, namesake]).freeze) =
          .ok payload ∧ payload = .object fields ∧
        (∃ kept, KeepsFirst [host, namesake] kept ∧
          (kept.map .participant).mapM encodeParticipant = .ok people) ∧
        first.timestamp? = some (.text start) ∧ last.timestamp? = some (.text stop) ∧
        fields.get? (key "start_time") = some (.text start) ∧
        fields.get? (key "end_time") = some (.text stop) := by
  have hlog : ([.object leavingFields, .object comingFields] : List Value).mapM parseEvent =
      .ok [leaving, coming] := by
    rw [List.mapM_cons, parse_leavingFields, ok_bind, List.mapM_cons, parse_comingFields]
    rfl
  obtain ⟨payload, h⟩ := exists_encode_leaving
  obtain ⟨fields, items, people, hobject, -, hkept, -, -, hends⟩ :=
    ends_of_replay .null hlog parse_hosts h
  obtain ⟨-, first, last, start, stop, -, -, hfirst, hlast, hstart, hstop⟩ :=
    hends (List.cons_ne_nil _ _)
  exact ⟨hlog, parse_hosts, payload, fields, people, first, last, start, stop, h, hobject, hkept,
    hfirst, hlast, hstart, hstop⟩

end Artifact

end Replay

end Proceedings
