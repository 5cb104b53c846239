import Proceedings.Proofs.Recorder.Presence
import Proceedings.Replay

/-! # What a replay records

No call of a replay is refused: it hands in times that have offsets and participants whose ids are
texts. What is recorded are the events of the log as they stand, between the earliest and the latest
of their times.
-/

namespace Proceedings

namespace Recorder

variable {r : Recorder} {c : Clock}

theorem perform_started {ps : List Participant} (h : ∀ p ∈ ps, p.id.unhashable? = none)
    (hr : r.startTime = none) {d : DateTime} (hd : d.isAware = true) :
    r.perform c (.started (.time d) (.list (ps.map .participant))) =
      .done ({ r with startTime := some d, initial := ps.foldl meet r.initial }, c) none := by
  simp only [perform, settle, hr, Clock.stamp, Value.isNull, Value.recordedTime_time, hd,
    Outcome.andThen, Outcome.within, Outcome.done, addInitial_eq h, Bool.false_eq_true, if_true,
    if_false, Outcome.map, Except.map, List.append_nil]

theorem perform_ended (hr : r.endTime = none) {d : DateTime} (hd : d.isAware = true) :
    r.perform c (.ended (.time d)) = .done ({ r with endTime := some d }, c) none := by
  simp only [perform, settle, hr, Clock.stamp, Value.isNull, Value.recordedTime_time, hd,
    Outcome.within, Outcome.done, Bool.false_eq_true, if_true, if_false, Outcome.map, Except.map]

end Recorder

namespace Replay

open Recorder

theorem foldl_mem {pick : DateTime → DateTime → DateTime}
    (hpick : ∀ best e, pick best e = best ∨ pick best e = e) (d : DateTime)
    (others : List DateTime) : others.foldl pick d ∈ d :: others := by
  induction others generalizing d with
  | nil => exact List.mem_cons_self
  | cons e others ih =>
    rw [List.foldl_cons]
    rcases hpick d e with h | h
    · rw [h]
      rcases List.mem_cons.mp (ih d) with hd | hothers
      · exact List.mem_cons.mpr (.inl hd)
      · exact List.mem_cons_of_mem d (List.mem_cons_of_mem e hothers)
    · rw [h]
      exact List.mem_cons_of_mem d (ih e)

theorem earliest_mem (d : DateTime) (others : List DateTime) : earliest d others ∈ d :: others :=
  foldl_mem (fun _ _ => (ite_eq_or_eq _ _ _).symm) d others

theorem latest_mem (d : DateTime) (others : List DateTime) : latest d others ∈ d :: others :=
  foldl_mem (fun _ _ => (ite_eq_or_eq _ _ _).symm) d others

variable {events : List Event} {initial : List Participant}

theorem record_nil (room : Value) (hinitial : ∀ p ∈ initial, p.id.unhashable? = none) :
    record room [] initial = ⟨room, none, none, initial.foldl meet [], []⟩ ∧
      refusals (calls [] initial) (.new room, .ofList []) = [] := by
  simp only [record, calls, performAll, refusals, perform, addInitial_eq hinitial]
  exact ⟨rfl, rfl⟩

theorem record_cons (room : Value) {e : Event} {rest : List Event}
    (hevents : ∀ f ∈ e :: rest, f.timestamp.isAware = true)
    (hinitial : ∀ p ∈ initial, p.id.unhashable? = none) :
    record room (e :: rest) initial =
        ⟨room, some (earliest e.timestamp (rest.map (·.timestamp))),
          some (latest e.timestamp (rest.map (·.timestamp))), initial.foldl meet [], e :: rest⟩ ∧
      refusals (calls (e :: rest) initial) (.new room, .ofList []) = [] := by
  have haware : ∀ d ∈ e.timestamp :: rest.map (·.timestamp), d.isAware = true := by
    intro d hd
    obtain ⟨f, hf, rfl⟩ := List.mem_map.mp (show d ∈ (e :: rest).map (·.timestamp) from hd)
    exact hevents f hf
  let start : DateTime := earliest e.timestamp (rest.map (·.timestamp))
  let stop : DateTime := latest e.timestamp (rest.map (·.timestamp))
  let r : Recorder := ⟨room, some start, none, initial.foldl meet [], []⟩
  have hstarted : (new room).perform (.ofList [])
      (.started (.time start) (.list (initial.map .participant))) = .done (r, .ofList []) none :=
    perform_started hinitial rfl (haware start (earliest_mem _ _))
  have hended : Recorder.perform { r with events := e :: rest } (.ofList []) (.ended (.time stop)) =
      .done ({ r with events := e :: rest, endTime := some stop }, .ofList []) none :=
    perform_ended rfl (haware stop (latest_mem _ _))
  have hrun : Accepts (calls (e :: rest) initial) (.new room, .ofList [])
      ({ r with events := e :: rest, endTime := some stop }, .ofList []) :=
    .cons hstarted ((accepts_addEvents hevents r (.ofList [])).append (.cons hended (.nil _)))
  exact ⟨congrArg Prod.fst hrun.performAll_eq, hrun.refusals_eq_nil⟩

theorem record_bounds (room : Value) (hevents : ∀ e ∈ events, e.timestamp.isAware = true)
    (hinitial : ∀ p ∈ initial, p.id.unhashable? = none) {d : DateTime}
    (h : (record room events initial).startTime = some d ∨
      (record room events initial).endTime = some d) :
    ∃ e ∈ events, e.timestamp = d := by
  cases events with
  | nil =>
    rw [(record_nil room hinitial).1] at h
    rcases h with h | h <;> cases h
  | cons e rest =>
    have hmem {d : DateTime} (hd : d ∈ e.timestamp :: rest.map Event.timestamp) :
        ∃ f ∈ e :: rest, f.timestamp = d :=
      List.mem_map.mp (show d ∈ (e :: rest).map (·.timestamp) from hd)
    rw [(record_cons room hevents hinitial).1] at h
    rcases h with h | h
    · exact hmem (Option.some.inj h ▸ earliest_mem _ _)
    · exact hmem (Option.some.inj h ▸ latest_mem _ _)

/-- What a replay records, and that none of its calls is refused. -/
theorem record_spec (room : Value) (hevents : ∀ e ∈ events, e.timestamp.isAware = true)
    (hinitial : ∀ p ∈ initial, p.id.unhashable? = none) :
    (∃ start stop, record room events initial = ⟨room, start, stop, initial.foldl meet [], events⟩) ∧
      refusals (calls events initial) (.new room, .ofList []) = [] := by
  cases events with
  | nil =>
    obtain ⟨hrecord, hrefusals⟩ := record_nil room hinitial
    exact ⟨⟨_, _, hrecord⟩, hrefusals⟩
  | cons e rest =>
    obtain ⟨hrecord, hrefusals⟩ := record_cons room hevents hinitial
    exact ⟨⟨_, _, hrecord⟩, hrefusals⟩

end Replay

end Proceedings
