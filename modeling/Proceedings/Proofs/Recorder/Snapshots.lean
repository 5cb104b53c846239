import Proceedings.Proofs.Recorder.Chronology
import Proceedings.Proofs.Recorder.Presence

/-! # Snapshots of one recorder

A snapshot keeps the initial participants and the times of an earlier one. Late events come to stand
between others. If the times of all events are ordered weakly, no two events ever change places,
since sorting one more event into a list leaves the rest of it as it is; and so do fewer than 64
events, whatever their times. Of more events two may change places, if their times go round in a
circle.
-/

namespace Proceedings

/-- A transcript that has the initial participants of an earlier one before any others, and each of
its times that is set. -/
structure Transcript.KeepsFrame (later earlier : Transcript) : Prop where
  initialParticipants : earlier.initialParticipants <+: later.initialParticipants
  startTime : earlier.startTime ≠ .null → later.startTime = earlier.startTime
  endTime : earlier.endTime ≠ .null → later.endTime = earlier.endTime

namespace Transcript.KeepsFrame

variable {t u v : Transcript}

theorem refl (t : Transcript) : t.KeepsFrame t := ⟨List.prefix_rfl, fun _ => rfl, fun _ => rfl⟩

theorem trans (h : u.KeepsFrame t) (h' : v.KeepsFrame u) : v.KeepsFrame t := by
  constructor
  case initialParticipants => exact h.initialParticipants.trans h'.initialParticipants
  case startTime =>
    intro ht
    have hu := h.startTime ht
    rw [h'.startTime (hu ▸ ht), hu]
  case endTime =>
    intro ht
    have hu := h.endTime ht
    rw [h'.endTime (hu ▸ ht), hu]

end Transcript.KeepsFrame

theorem Settles.ofOption_eq {before after : Option DateTime} (h : Settles before after)
    (hset : Value.ofOption (before.map .time) ≠ .null) :
    Value.ofOption (after.map .time) = Value.ofOption (before.map .time) := by
  rcases h with rfl | ⟨rfl, -⟩
  · rfl
  · exact absurd rfl hset

namespace Recorder

variable {r : Recorder} {e : Event} {events added : List Event}

/-- Events of which no two change places when more are recorded: few, or with times that are ordered
weakly. -/
def IsSettled (events : List Event) : Prop :=
  events.length < 64 ∨ Sorting.IsWeakOrder Event.before (· ∈ events)

theorem IsSettled.of_append (h : IsSettled (events ++ added)) : IsSettled events := by
  rcases h with hshort | hw
  · rw [List.length_append] at hshort
    exact .inl (by omega)
  · exact .inr (hw.mono fun _ => List.mem_append_left _)

theorem isSettled_of_areInStep (h : DateTime.AreInStep (events.map (·.timestamp))) :
    IsSettled events :=
  .inr ((Event.isWeakOrder_earlier _).congr fun _ _ he hf => Event.before_eq_earlier h he hf)

theorem chronological_sublist_concat (h : IsSettled (events ++ [e])) :
    (chronological events).Sublist (chronological (events ++ [e])) := by
  rcases h with hshort | hw
  · rw [List.length_append] at hshort
    obtain ⟨pre, post, hevents, hall⟩ : ∃ pre post,
        Sorting.sort Event.before events = pre ++ post ∧
          Sorting.sort Event.before (events ++ [e]) = pre ++ e :: post := Sorting.sort_concat hshort
    rw [chronological, chronological, hevents, hall]
    exact (List.Sublist.refl pre).append (List.sublist_cons_self e post)
  · have hevents : ∀ f ∈ events, f ∈ events ++ [e] := fun _ => List.mem_append_left _
    have hsorted := Sorting.sort_isStableSort hw hevents
    have hinserted := hsorted.insert hw hevents (by simp : e ∈ events ++ [e])
    have hall := Sorting.sort_isStableSort hw fun _ hf => hf
    rw [chronological, chronological, hall.unique hw (fun _ hf => hf) hinserted]
    exact Sorting.sublist_insert _ _ _

/-- Recorded events keep the order in which they stand when more are recorded. -/
theorem chronological_sublist (h : IsSettled (events ++ added)) :
    (chronological events).Sublist (chronological (events ++ added)) := by
  induction added using List.reverseRecOn with
  | nil => rw [List.append_nil]
  | append_singleton added e ih =>
    rw [← List.append_assoc] at h ⊢
    exact (ih h.of_append).trans (chronological_sublist_concat h)

theorem keepsFrame_perform (r : Recorder) (c : Clock) (call : RecorderCall) :
    (r.perform c call).state.1.freeze.KeepsFrame r.freeze := by
  have hgrows := grows_perform r c call
  constructor
  case initialParticipants =>
    apply List.IsPrefix.map
    rw [initial_perform]
    exact prefix_gather _ _
  case startTime => exact hgrows.startTime.ofOption_eq
  case endTime => exact hgrows.endTime.ofOption_eq

theorem keepsFrame_performAll (r : Recorder) (calls : List RecorderCall) (c : Clock) :
    (performAll calls (r, c)).1.freeze.KeepsFrame r.freeze := by
  induction calls generalizing r c with
  | nil => exact .refl _
  | cons call rest ih => exact (keepsFrame_perform r c call).trans (ih _ _)

theorem sublist_performAll {r : Recorder} {calls : List RecorderCall} {c : Clock}
    (h : IsSettled (performAll calls (r, c)).1.events) :
    r.freeze.events.Sublist (performAll calls (r, c)).1.freeze.events := by
  apply List.Sublist.map
  rw [(grows_performAll calls r c).events] at h ⊢
  exact chronological_sublist h

/-- However a recorder is used, each snapshot of it keeps the frame of the snapshots before. It has
their events in the same order if it has fewer than 64 or their times are ordered weakly, as they
are if they are in step. -/
theorem freeze_extends (room : Value) (c : Clock) (before after : List RecorderCall) :
    let earlier := (performAll before (new room, c)).1
    let later := (performAll (before ++ after) (new room, c)).1
    later.freeze.KeepsFrame earlier.freeze ∧
      (IsSettled later.events → earlier.freeze.events.Sublist later.freeze.events) ∧
      ((∀ e ∈ later.events, ∀ f ∈ later.events, e.timestamp.InStep f.timestamp) →
        IsSettled later.events) := by
  intro earlier later
  have hlater : later = (performAll after (performAll before (new room, c))).1 := by
    rw [← performAll_append]
  refine ⟨?_, fun h => ?_, ?_⟩
  · rw [hlater]
    exact keepsFrame_performAll _ _ _
  · rw [hlater] at h ⊢
    exact sublist_performAll h
  · have haware := (performAll_isAware room c (before ++ after)).events
    exact fun hstep => isSettled_of_areInStep (Event.areInStep_timestamps haware hstep)

/-- On the night when the clocks of Berlin are set back, ten past two comes before half past two on
the clock, which comes before the middle between them, which comes before ten past two. After 62
events at ten past two and one between, another one at half past two makes the one between change
places with the others. -/
theorem freeze_not_extends_berlin :
    let first := List.replicate 62 (joinAt .tenPastTwo) ++ [joinAt .betweenInUtc]
    let adds := List.map fun e => RecorderCall.addEvent (.event e)
    let snapshot := fun es => (performAll (adds es) (new .null, .ofList [])).1.freeze
    ¬ (snapshot first).events.Sublist (snapshot (first ++ [joinAt .halfPastTwo])).events := by
  intro first adds snapshot hsub
  rw [show (snapshot first).events = _ from events_freeze_addEvents (by decide +kernel) _ _,
    show (snapshot (first ++ [joinAt .halfPastTwo])).events = _ from
      events_freeze_addEvents (by decide +kernel) _ _] at hsub
  obtain ⟨kept, hkept, heq⟩ := List.sublist_map_iff.mp hsub
  obtain rfl := List.map_injective_iff.mpr (fun _ _ => Value.event.inj) heq
  exact absurd (hkept.map Event.timestamp) (by decide +kernel)

end Recorder

end Proceedings
