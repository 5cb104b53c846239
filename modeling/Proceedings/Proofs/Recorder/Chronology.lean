import Proceedings.Proofs.Calendar.Step
import Proceedings.Proofs.Recorder.Growth
import Proceedings.Proofs.Sorting.Runs

/-! # The order of what is recorded

All times that a recorder holds have offsets, so any two of its events can be compared and it can be
frozen. Frozen events are those that were recorded, in some order. If their times are in step this
is the order of their instants, in which those of one instant stand as they were recorded; there is
only one such order. If two times are not in step, two events at them are frozen out of it.
-/

namespace Proceedings

namespace Event

def NotAfter (e f : Event) : Prop :=
  ∃ m n, e.timestamp.instant? = some m ∧ f.timestamp.instant? = some n ∧ m ≤ n

def isAt (n : Int) (e : Event) : Bool := e.timestamp.instant? == some n

def instant (e : Event) : Int := e.timestamp.instant?.getD 0

def earlier (e f : Event) : Bool := e.instant < f.instant

variable {e f : Event}

theorem instant?_eq (he : e.timestamp.isAware = true) :
    e.timestamp.instant? = some e.instant := by
  obtain ⟨n, hn⟩ := DateTime.isAware_iff.mp he
  simp [instant, hn]

theorem isAt_iff (he : e.timestamp.isAware = true) {n : Int} :
    e.isAt n = true ↔ e.instant = n := by
  simp [isAt, instant?_eq he]

theorem notAfter_iff (he : e.timestamp.isAware = true) (hf : f.timestamp.isAware = true) :
    e.NotAfter f ↔ e.instant ≤ f.instant := by
  simp [NotAfter, instant?_eq he, instant?_eq hf]

theorem earlier_eq_false_iff : f.earlier e = false ↔ e.instant ≤ f.instant := by
  simp [earlier]

theorem tied_earlier_iff : Sorting.tied earlier e f = true ↔ f.instant = e.instant := by
  rw [Sorting.tied_iff, earlier_eq_false_iff, earlier_eq_false_iff]
  omega

theorem areInStep_timestamps {events : List Event}
    (haware : ∀ e ∈ events, e.timestamp.isAware = true)
    (h : ∀ e ∈ events, ∀ f ∈ events, e.timestamp.InStep f.timestamp) :
    DateTime.AreInStep (events.map (·.timestamp)) :=
  ⟨List.forall_mem_map.mpr haware,
    List.forall_mem_map.mpr fun e he => List.forall_mem_map.mpr fun f hf => h e he f hf⟩

/-- Events whose times are in step are ordered as their instants are. -/
theorem before_eq_earlier {events : List Event}
    (h : DateTime.AreInStep (events.map (·.timestamp))) (he : e ∈ events) (hf : f ∈ events) :
    e.before f = e.earlier f := by
  have he := List.mem_map_of_mem (f := Event.timestamp) he
  have hf := List.mem_map_of_mem (f := Event.timestamp) hf
  exact h.inStep _ he _ hf _ (instant?_eq (h.isAware _ he)) _ (instant?_eq (h.isAware _ hf))

theorem isWeakOrder_earlier (s : Event → Prop) : Sorting.IsWeakOrder earlier s where
  asymm := by
    intro e f _ _ h
    simp only [earlier, decide_eq_true_eq, decide_eq_false_iff_not] at h ⊢
    omega
  trans_not := by
    intro d e f _ _ _ hde hef
    rw [earlier_eq_false_iff] at hde hef ⊢
    omega

end Event

namespace Recorder

/-- Events in the order of their instants, those of one instant as they were recorded. -/
structure IsChronological (recorded events : List Event) : Prop where
  perm : events.Perm recorded
  sorted : events.Pairwise Event.NotAfter
  stable : ∀ n, events.filter (Event.isAt n) = recorded.filter (Event.isAt n)

section Order

variable {recorded events l₁ l₂ : List Event} {e : Event}

theorem isChronological_iff (h : ∀ e ∈ recorded, e.timestamp.isAware = true) :
    IsChronological recorded events ↔
      Sorting.IsStableSort Event.earlier (· ∈ recorded) recorded events := by
  have htied : ∀ e ∈ recorded, ∀ l : List Event, (∀ f ∈ l, f ∈ recorded) →
      l.filter (Sorting.tied Event.earlier e) = l.filter (Event.isAt e.instant) := by
    intro e he l hl
    refine List.filter_congr fun f hf => ?_
    rw [Bool.eq_iff_iff, Event.tied_earlier_iff, Event.isAt_iff (h f (hl f hf))]
  constructor
  · rintro ⟨hperm, hsorted, hstable⟩
    refine ⟨hperm, hsorted.imp_of_mem fun {e f} he hf hef => ?_, fun e he => ?_⟩
    · rw [Event.earlier_eq_false_iff]
      exact (Event.notAfter_iff (h e (hperm.mem_iff.mp he)) (h f (hperm.mem_iff.mp hf))).mp hef
    · rw [htied e he events fun f hf => hperm.mem_iff.mp hf, htied e he recorded fun _ hf => hf]
      exact hstable e.instant
  · rintro ⟨hperm, hsorted, hties⟩
    refine ⟨hperm, hsorted.imp_of_mem fun {e f} he hf hef => ?_, fun n => ?_⟩
    · rw [Event.notAfter_iff (h e (hperm.mem_iff.mp he)) (h f (hperm.mem_iff.mp hf))]
      exact Event.earlier_eq_false_iff.mp hef
    · -- At an instant of no event nothing is to be shown.
      by_cases hnone : recorded.filter (Event.isAt n) = []
      · rw [hnone, List.filter_eq_nil_iff]
        intro e he
        exact List.filter_eq_nil_iff.mp hnone e (hperm.mem_iff.mp he)
      · obtain ⟨e, hmem⟩ := List.exists_mem_of_ne_nil _ hnone
        obtain ⟨he, hen⟩ := List.mem_filter.mp hmem
        obtain rfl := (Event.isAt_iff (h e he)).mp hen
        have hsame := hties e he
        rwa [htied e he events fun f hf => hperm.mem_iff.mp hf,
          htied e he recorded fun _ hf => hf] at hsame

theorem IsChronological.unique (h : ∀ e ∈ recorded, e.timestamp.isAware = true)
    (h₁ : IsChronological recorded l₁) (h₂ : IsChronological recorded l₂) : l₁ = l₂ :=
  Sorting.IsStableSort.unique (Event.isWeakOrder_earlier _) (fun _ he => he)
    ((isChronological_iff h).mp h₁) ((isChronological_iff h).mp h₂)

theorem isChronological_sort (h : ∀ e ∈ recorded, e.timestamp.isAware = true) :
    IsChronological recorded (Sorting.sort Event.earlier recorded) :=
  (isChronological_iff h).mpr
    (Sorting.sort_isStableSort (Event.isWeakOrder_earlier _) fun _ he => he)

/-- Changing events but for their instants keeps their order. -/
theorem IsChronological.map {g : Event → Event} (h : IsChronological recorded events)
    (hg : ∀ e ∈ recorded, (g e).timestamp.instant? = e.timestamp.instant?) :
    IsChronological (recorded.map g) (events.map g) := by
  have hevents : ∀ e ∈ events, (g e).timestamp.instant? = e.timestamp.instant? := fun e he =>
    hg e (h.perm.mem_iff.mp he)
  have hfilter (n : Int) {l : List Event}
      (hl : ∀ e ∈ l, (g e).timestamp.instant? = e.timestamp.instant?) :
      (l.map g).filter (Event.isAt n) = (l.filter (Event.isAt n)).map g := by
    rw [List.filter_map]
    refine congrArg _ (List.filter_congr fun e he => ?_)
    rw [Function.comp_apply, Event.isAt, hl e he]
    rfl
  refine ⟨h.perm.map g, ?_, fun n => ?_⟩
  · rw [List.pairwise_map]
    refine h.sorted.imp_of_mem fun {e f} he hf hef => ?_
    rw [Event.NotAfter, hevents e he, hevents f hf]
    exact hef
  · rw [hfilter n hevents, hfilter n hg, h.stable n]

theorem isChronological_chronological (h : DateTime.AreInStep (events.map (·.timestamp))) :
    IsChronological events (chronological events) := by
  have haware := List.forall_mem_map.mp h.isAware
  have hsame : ∀ e f, e ∈ events → f ∈ events → e.before f = e.earlier f := fun e f he hf =>
    Event.before_eq_earlier h he hf
  have hw := (Event.isWeakOrder_earlier (· ∈ events)).congr hsame
  exact (isChronological_iff haware).mpr
    ((Sorting.sort_isStableSort hw fun _ he => he).congr hsame fun _ he => he)

theorem chronological_perm (events : List Event) : (chronological events).Perm events :=
  Sorting.sort_perm events

theorem chronological_pair (e f : Event) :
    chronological [e, f] = if f.before e then [f, e] else [e, f] := by
  rw [chronological, Sorting.sort_of_length_lt (by simp)]
  split <;> simp [Sorting.firstRun, Sorting.extend, *]

end Order

section Freezing

/-- What is recorded so far, unless two of its events cannot be compared. -/
def freeze? (r : Recorder) : Option Transcript :=
  if r.events.all fun e => r.events.all fun f => (e.timestamp.before? f.timestamp).isSome then
    some r.freeze
  else none

variable {r : Recorder} {e f : Event}

theorem IsAware.before?_eq (h : r.IsAware) (he : e ∈ r.events) (hf : f ∈ r.events) :
    e.timestamp.before? f.timestamp = some (e.before f) :=
  DateTime.before?_eq (h.events e he) (h.events f hf)

theorem IsAware.freeze?_eq (h : r.IsAware) : r.freeze? = some r.freeze := by
  rw [freeze?, if_pos]
  simp only [List.all_eq_true]
  intro e he f hf
  rw [h.before?_eq he hf]
  rfl

/-- Events are frozen in chronological order whenever all are at certain times. -/
def FreezesInOrder (times : DateTime → Prop) : Prop :=
  ∀ (room : Value) (c : Clock) (calls : List RecorderCall),
    (∀ e ∈ returned calls (new room, c), times e.timestamp) →
      ∃ events, (performAll calls (new room, c)).1.freeze.events = events.map .event ∧
        IsChronological (returned calls (new room, c)) events

theorem events_performAll (room : Value) (c : Clock) (calls : List RecorderCall) :
    (performAll calls (new room, c)).1.events = returned calls (new room, c) :=
  (grows_performAll calls (new room) c).events

theorem freezesInOrder_of_inStep {times : DateTime → Prop}
    (h : ∀ d e, times d → times e → d.InStep e) : FreezesInOrder times := by
  intro room c calls htimes
  have haware := (performAll_isAware room c calls).events
  refine ⟨chronological (performAll calls (new room, c)).1.events, rfl, ?_⟩
  rw [events_performAll] at haware ⊢
  refine isChronological_chronological (Event.areInStep_timestamps haware fun e he f hf => ?_)
  exact h _ _ (htimes e he) (htimes f hf)

def joinAt (d : DateTime) : Event := ⟨d, ⟨.null, .null, .null, .null⟩, .join⟩

/-- Two events are in chronological order after sorting only if their times are in step. -/
theorem inStep_of_pair (h : IsChronological [f, e] (chronological [f, e])) :
    e.timestamp.InStep f.timestamp := by
  intro m hm n hn
  rw [chronological_pair] at h
  cases hbefore : e.before f with
  | true =>
    rw [if_pos hbefore] at h
    obtain ⟨m', n', hm', hn', hle⟩ := List.rel_of_pairwise_cons h.sorted List.mem_cons_self
    obtain rfl := Option.some.inj (hm.symm.trans hm')
    obtain rfl := Option.some.inj (hn.symm.trans hn')
    refine hbefore.trans (decide_eq_true (lt_of_le_of_ne hle ?_)).symm
    rintro rfl
    -- At one instant the events would stand as they were recorded, so they would be the same.
    have hboth : ∀ l : List Event, (∀ x ∈ l, x = e ∨ x = f) → l.filter (Event.isAt m) = l := by
      intro l hl
      refine List.filter_eq_self.mpr fun x hx => ?_
      rcases hl x hx with rfl | rfl
      · simpa [Event.isAt] using hm
      · simpa [Event.isAt] using hn
    have hstable := h.stable m
    rw [hboth _ (by simp), hboth _ (by simp)] at hstable
    rw [Event.before, (List.cons.inj hstable).1, DateTime.before_self] at hbefore
    cases hbefore
  | false =>
    rw [if_neg (Bool.eq_false_iff.mp hbefore)] at h
    obtain ⟨n', m', hn', hm', hle⟩ := List.rel_of_pairwise_cons h.sorted List.mem_cons_self
    obtain rfl := Option.some.inj (hm.symm.trans hm')
    obtain rfl := Option.some.inj (hn.symm.trans hn')
    exact hbefore.trans (decide_eq_false (not_lt.mpr hle)).symm

theorem returned_addEvents {es : List Event} (h : ∀ e ∈ es, e.timestamp.isAware = true)
    (room : Value) (c : Clock) :
    returned (es.map fun e => .addEvent (.event e)) (new room, c) = es := by
  rw [← events_performAll, (accepts_addEvents h (new room) c).performAll_eq]
  rfl

theorem events_freeze_addEvents {es : List Event} (h : ∀ e ∈ es, e.timestamp.isAware = true)
    (room : Value) (c : Clock) :
    (performAll (es.map fun e => .addEvent (.event e)) (new room, c)).1.freeze.events =
      (chronological es).map .event := by
  rw [freeze, events_performAll, returned_addEvents h]

theorem inStep_of_freezesInOrder {times : DateTime → Prop} (h : FreezesInOrder times)
    {d e : DateTime} (hd : times d) (he : times e) : d.InStep e := by
  intro m hm n hn
  have haware : ∀ f ∈ [joinAt e, joinAt d], f.timestamp.isAware = true :=
    List.forall_mem_cons.mpr ⟨DateTime.isAware_iff.mpr ⟨n, hn⟩,
      List.forall_mem_singleton.mpr (DateTime.isAware_iff.mpr ⟨m, hm⟩)⟩
  have htimes : ∀ f ∈ [joinAt e, joinAt d], times f.timestamp :=
    List.forall_mem_cons.mpr ⟨he, List.forall_mem_singleton.mpr hd⟩
  have hreturned := returned_addEvents haware .null (.ofList [])
  obtain ⟨frozen, hfrozen, hchron⟩ := h .null (.ofList []) _ (by rwa [hreturned])
  rw [hreturned] at hchron
  have hsorted : (chronological [joinAt e, joinAt d]).map Value.event = frozen.map .event := by
    rw [← hfrozen, events_freeze_addEvents haware]
  rw [← List.map_injective_iff.mpr (fun _ _ => Value.event.inj) hsorted] at hchron
  exact inStep_of_pair hchron m hm n hn

/-- However a recorder is used, all times that it holds have offsets, so any two of its events can
be compared and it can be frozen; its frozen events are those that calls answered with. These are
frozen in chronological order, whatever calls record them, if and only if their times are in
step. -/
theorem freeze_chronological (times : DateTime → Prop) :
    (∀ (room : Value) (c : Clock) (calls : List RecorderCall),
      let r := (performAll calls (new room, c)).1
      r.IsAware ∧
        (∀ e ∈ r.events, ∀ f ∈ r.events, e.timestamp.before? f.timestamp = some (e.before f)) ∧
        r.freeze? = some r.freeze ∧
        ∃ events : List Event, r.freeze.events = events.map .event ∧
          events.Perm (returned calls (new room, c))) ∧
    (FreezesInOrder times ↔ ∀ d e, times d → times e → d.InStep e) := by
  refine ⟨fun room c calls => ?_, ?_⟩
  · have haware := performAll_isAware room c calls
    refine ⟨haware, fun e he f hf => haware.before?_eq he hf, haware.freeze?_eq, _, rfl, ?_⟩
    rw [events_performAll]
    exact chronological_perm _
  · exact ⟨fun h d e hd he => inStep_of_freezesInOrder h hd he, freezesInOrder_of_inStep⟩

/-- On the night when the clocks of Berlin are set back, someone who joins at half past two is
frozen behind someone who joins at ten past two, forty minutes later. -/
theorem freeze_berlin :
    let calls := [joinAt .halfPastTwo, joinAt .tenPastTwo].map fun e => .addEvent (.event e)
    (performAll calls (new .null, .ofList [])).1.freeze.events =
        [.event (joinAt .tenPastTwo), .event (joinAt .halfPastTwo)] ∧
      ¬ (joinAt .tenPastTwo).NotAfter (joinAt .halfPastTwo) := by
  have hsorted : chronological [joinAt .halfPastTwo, joinAt .tenPastTwo] =
      [joinAt .tenPastTwo, joinAt .halfPastTwo] := by
    rw [chronological_pair, if_pos (by decide)]
  refine ⟨(events_freeze_addEvents (by decide) _ _).trans (congrArg _ hsorted), ?_⟩
  rintro ⟨m, n, hm, hn, hle⟩
  obtain rfl := Option.some.inj hm
  obtain rfl := Option.some.inj hn
  exact absurd hle (by decide)

end Freezing

end Recorder

end Proceedings
