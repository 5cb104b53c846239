import Proceedings.Proofs.Recorder.Chronology
import Proceedings.Proofs.Session.Timekeeping

/-! # Sessions on a steady clock

If the times of a session are read from a clock that never goes back, each event is stamped with the
reading that its step took, and so is each mark. Readings that were taken are not later than those
that are yet to come: the marks stand among the events where they were set. The events are frozen as
they were recorded unless a later reading is before an earlier one, as it is on a clock that shows
the time of a zone while the clocks of the zone are set back.
-/

namespace Proceedings

/-- A reading with an instant that is not later than that of another. -/
def DateTime.NotAfter (d e : DateTime) : Prop :=
  ∃ m n, d.instant? = some m ∧ e.instant? = some n ∧ m ≤ n

namespace Clock

/-- A clock whose readings have offsets and never go back. -/
def IsSteady (c : Clock) : Prop :=
  ∀ m n, m ≤ n → ∃ d e, c.readings m = .time d ∧ c.readings n = .time e ∧ d.NotAfter e

/-- A clock that will not show a reading before one that it shows sooner. -/
def ShowsInOrder (c : Clock) : Prop :=
  ∀ m n, c.used ≤ m → m < n → ∀ d e, c.readings m = .time d → c.readings n = .time e →
    e.before d = false

def HasShown (c : Clock) (d : DateTime) : Prop := ∃ n < c.used, c.readings n = .time d

/-- A reading that is yet to be taken from the clock. -/
def WillShow (c : Clock) (d : DateTime) : Prop := ∃ n ≥ c.used, c.readings n = .time d

variable {c : Clock} {d e : DateTime}

theorem willShow_of_now (h : c.now = .time d) : c.WillShow d := ⟨c.used, le_rfl, h⟩

theorem hasShown_of_now (h : c.now = .time d) : c.tick.HasShown d :=
  ⟨c.used, Nat.lt_succ_self _, h⟩

theorem IsSteady.notAfter_of_le (hc : c.IsSteady) {m n : Nat} (h : m ≤ n)
    (hd : c.readings m = .time d) (he : c.readings n = .time e) : d.NotAfter e := by
  obtain ⟨d', e', hd', he', hle⟩ := hc m n h
  obtain rfl := Value.time.inj (hd.symm.trans hd')
  obtain rfl := Value.time.inj (he.symm.trans he')
  exact hle

/-- What was taken is not later than what is yet to be taken. -/
theorem IsSteady.notAfter (hc : c.IsSteady) (hd : c.HasShown d) (he : c.WillShow e) :
    d.NotAfter e := by
  obtain ⟨m, hm, hd⟩ := hd
  obtain ⟨n, hn, he⟩ := he
  exact hc.notAfter_of_le (hm.le.trans hn) hd he

theorem IsSteady.isAware (hc : c.IsSteady) (hd : c.WillShow d) : d.isAware = true := by
  obtain ⟨n, -, hn⟩ := hd
  obtain ⟨m, -, hm, -, -⟩ := hc.notAfter_of_le le_rfl hn hn
  exact DateTime.isAware_iff.mpr ⟨m, hm⟩

theorem ShowsInOrder.tick (h : c.ShowsInOrder) : c.tick.ShowsInOrder := by
  intro m n hm
  exact h m n (Nat.le_of_succ_le hm)

/-- A steady clock whose readings are in step shows them in order. -/
theorem IsSteady.showsInOrder (hc : c.IsSteady)
    (hstep : ∀ d e, c.WillShow d → c.WillShow e → d.InStep e) : c.ShowsInOrder := by
  intro m n hm hmn d e hd he
  obtain ⟨i, j, hi, hj, hle⟩ := hc.notAfter_of_le hmn.le hd he
  rw [hstep e d ⟨n, hm.trans hmn.le, he⟩ ⟨m, hm, hd⟩ j hj i hi]
  exact decide_eq_false (not_lt.mpr hle)

theorem IsSteady.awareTime?_now (hc : c.IsSteady) :
    ∃ d, c.now = .time d ∧ c.now.awareTime? = some d := by
  obtain ⟨d, -, hd, -, -⟩ := hc c.used c.used le_rfl
  refine ⟨d, hd, ?_⟩
  rw [now, hd, Value.awareTime?, if_pos (hc.isAware (willShow_of_now hd))]

end Clock

theorem Value.eq_time_of_awareTime? {v : Value} {d : DateTime} (h : v.awareTime? = some d) :
    v = .time d := by
  cases v with
  | time e =>
    rw [awareTime?] at h
    split at h
    · rw [Option.some.inj h]
    · cases h
  | _ => cases h

theorem Event.ofKind_timestamp {k : EventKind} {time participant result : Value} {e : Event}
    (h : Event.ofKind k time participant result = .ok e) : time = .time e.timestamp := by
  unfold Event.ofKind at h
  split at h
  · obtain ⟨o, -, ho⟩ := bind_eq_ok.mp h
    obtain rfl := Except.ok.inj ho
    rfl
  · cases h
  · cases h

/-- A call that is given no time, and no event whose instant is known. -/
@[simp] def RecorderCall.isUntimed : RecorderCall → Bool
  | .started given _ => given.isNull
  | .ended given => given.isNull
  | .addEvent (.event e) => !e.timestamp.isAware
  | .notify _ _ _ given => given.isNull
  | _ => true

@[simp] def SessionStep.isUntimed : SessionStep → Bool
  | .record call => call.isUntimed
  | _ => true

namespace Recorder

variable {r : Recorder} {c : Clock} {e : Event}

theorem returned_append (r : Recorder) (e : Event) :
    ((r.append e).map some).returned = if e.timestamp.isAware then [e] else [] := by
  rw [append_eq]
  split <;> rfl

theorem ofKind_of_returned {k : EventKind} {participant result given : Value}
    (he : e ∈ (r.perform c (.notify k participant result given)).returned) :
    Event.ofKind k (c.stamp given).1 participant result = .ok e := by
  rw [perform] at he
  dsimp only at he
  split at he
  · next f hf =>
    have hmem : e ∈ ((r.append f).map some).returned := he
    rw [returned_append] at hmem
    split at hmem
    · rw [hf, List.mem_singleton.mp hmem]
    · cases hmem
  · cases he

/-- An event that a call answers with is stamped with the reading that the call takes. -/
theorem now_of_returned {call : RecorderCall} (h : call.isUntimed = true)
    (he : e ∈ (r.perform c call).returned) :
    c.now = .time e.timestamp ∧ call.reads r = true := by
  cases call with
  | notify k participant result given =>
    obtain rfl := Value.eq_null_of_isNull h
    exact ⟨Event.ofKind_timestamp (ofKind_of_returned he), rfl⟩
  | addEvent v =>
    cases v with
    | event f =>
      have hmem : e ∈ ((r.append f).map some).returned := he
      rw [returned_append, if_neg (by simpa using h)] at hmem
      cases hmem
    | _ => cases he
  | started given v =>
    rw [returned_started] at he
    cases he
  | ended given =>
    rw [perform, Outcome.returned_map_none] at he
    cases he
  | addInitial v =>
    rw [perform, Outcome.returned_map_none] at he
    cases he
  | setRoomName => cases he

end Recorder

namespace Outcome

variable {α : Type}

/-- The event that a step answers with, if it does. -/
def recorded (o : Outcome Session SessionAnswer) : List Event :=
  match o.answer with
  | .ok (.event e) => [e]
  | _ => []

theorem recorded_map_event (o : Outcome Session (Option Event)) :
    (o.map fun e? => match e? with
      | some e => SessionAnswer.event e
      | none => .nothing).recorded = o.returned := by
  obtain ⟨s, log, answer⟩ := o
  rcases answer with f | _ | e <;> rfl

theorem recorded_eq_nil {f : α → SessionAnswer} (hf : ∀ a e, f a ≠ .event e) (s : Session)
    (log : Log) (answer : Except Failure α) : recorded ⟨s, log, answer.map f⟩ = [] := by
  rw [recorded]
  dsimp only
  split
  · next e h =>
    cases answer with
    | ok a => exact absurd (Except.ok.inj h) (hf a e)
    | error _ => cases h
  · rfl

end Outcome

namespace Session

variable {s : Session} {steps before after : List SessionStep} {step : SessionStep} {d : DateTime}
  {e : Event}

/-- The events that steps answer with, in order. -/
def recorded : List SessionStep → Session → List Event
  | [], _ => []
  | step :: rest, s => (s.step step).recorded ++ recorded rest (s.step step).state

theorem recorded_append (first second : List SessionStep) (s : Session) :
    recorded (first ++ second) s = recorded first s ++ recorded second (s.run first) := by
  induction first generalizing s with
  | nil => rfl
  | cons step rest ih => simp [recorded, run, ih]

theorem recorded_step (s : Session) (step : SessionStep) :
    (s.step step).recorded =
      match step with
      | .record call => (s.recorder.perform s.clock call).returned
      | _ => [] := by
  cases step with
  | record call => exact Outcome.recorded_map_event _
  | finalize number what =>
    rw [Session.step]
    split
    · exact Outcome.recorded_eq_nil (by simp) _ _ _
    · rfl
  | freeze => rfl
  | reread | encode | publishEvent | publishResult => exact Outcome.recorded_eq_nil (by simp) _ _ _

theorem recorded_started (s : Session) (given v : Value) :
    (s.step (.record (.started given v))).recorded = [] := by
  rw [recorded_step]
  exact Recorder.returned_started s.recorder s.clock given v

theorem events_step (s : Session) (step : SessionStep) :
    (s.step step).state.recorder.events = s.recorder.events ++ (s.step step).recorded := by
  rw [recorder_step, recorded_step]
  cases step with
  | record call => exact (Recorder.grows_perform s.recorder s.clock call).events
  | _ => exact s.recorder.events.append_nil.symm

theorem events_run (steps : List SessionStep) (s : Session) :
    (s.run steps).recorder.events = s.recorder.events ++ recorded steps s := by
  induction steps generalizing s with
  | nil => exact s.recorder.events.append_nil.symm
  | cons step rest ih => rw [run, ih, events_step, recorded, List.append_assoc]

section Stamps

theorem isSteady_run (h : s.clock.IsSteady) (steps : List SessionStep) :
    (s.run steps).clock.IsSteady := by
  rw [clock_run]
  exact h

theorem hasShown_run (h : s.clock.HasShown d) (steps : List SessionStep) :
    (s.run steps).clock.HasShown d := by
  obtain ⟨n, hn, hd⟩ := h
  rw [clock_run]
  exact ⟨n, Nat.lt_add_right _ hn, hd⟩

theorem willShow_of_run (steps : List SessionStep) (h : (s.run steps).clock.WillShow d) :
    s.clock.WillShow d := by
  rw [clock_run] at h
  obtain ⟨n, hn, hd⟩ := h
  exact ⟨n, le_of_add_le_left hn, hd⟩

theorem stamped_step (h : step.isUntimed = true) (he : e ∈ (s.step step).recorded) :
    s.clock.now = .time e.timestamp ∧ (s.step step).state.clock = s.clock.tick := by
  rw [recorded_step] at he
  cases step with
  | record call =>
    obtain ⟨hnow, hreads⟩ := Recorder.now_of_returned h he
    exact ⟨hnow, by rw [clock_step, reads, if_pos hreads]⟩
  | _ => cases he

theorem willShow_step (h : step.isUntimed = true) (he : e ∈ (s.step step).recorded) :
    s.clock.WillShow e.timestamp :=
  Clock.willShow_of_now (stamped_step h he).1

theorem hasShown_step (h : step.isUntimed = true) (he : e ∈ (s.step step).recorded) :
    (s.step step).state.clock.HasShown e.timestamp := by
  obtain ⟨hnow, hclock⟩ := stamped_step h he
  rw [hclock]
  exact Clock.hasShown_of_now hnow

/-- Before the steps, the readings that stamp what they record are yet to be taken. -/
theorem willShow_recorded (hsteps : ∀ step ∈ steps, step.isUntimed = true) :
    ∀ e ∈ recorded steps s, s.clock.WillShow e.timestamp := by
  induction steps generalizing s with
  | nil => exact List.forall_mem_nil _
  | cons step rest ih =>
    obtain ⟨hstep, hrest⟩ := List.forall_mem_cons.mp hsteps
    refine List.forall_mem_append.mpr ⟨fun e he => willShow_step hstep he, ?_⟩
    intro e he
    exact willShow_of_run [step] (ih hrest e he)

theorem hasShown_recorded (hsteps : ∀ step ∈ steps, step.isUntimed = true) :
    ∀ e ∈ recorded steps s, (s.run steps).clock.HasShown e.timestamp := by
  induction steps generalizing s with
  | nil => exact List.forall_mem_nil _
  | cons step rest ih =>
    obtain ⟨hstep, hrest⟩ := List.forall_mem_cons.mp hsteps
    refine List.forall_mem_append.mpr ⟨?_, ih hrest⟩
    intro e he
    exact hasShown_run (hasShown_step hstep he) rest

/-- On a clock that shows its readings in order, no event is before one that is recorded sooner. -/
theorem pairwise_recorded (h : s.clock.ShowsInOrder)
    (hsteps : ∀ step ∈ steps, step.isUntimed = true) :
    (recorded steps s).Pairwise fun e f => f.before e = false := by
  induction steps generalizing s with
  | nil => exact .nil
  | cons step rest ih =>
    obtain ⟨hstep, hrest⟩ := List.forall_mem_cons.mp hsteps
    have hnext : (s.step step).state.clock.ShowsInOrder := by
      rw [clock_step]
      split
      · exact h.tick
      · exact h
    refine List.pairwise_append.mpr ⟨?_, ih hnext hrest, ?_⟩
    · rw [Outcome.recorded]
      split
      · exact List.pairwise_singleton _ _
      · exact .nil
    · intro e he f hf
      obtain ⟨hnow, htick⟩ := stamped_step hstep he
      obtain ⟨n, hn, hf⟩ := willShow_recorded hrest f hf
      rw [htick] at hn hf
      exact h s.clock.used n le_rfl hn _ _ hnow hf

theorem events_freeze (hnew : s.recorder.events = []) (h : s.clock.ShowsInOrder)
    (hsteps : ∀ step ∈ steps, step.isUntimed = true) :
    (s.run steps).recorder.freeze.events = (recorded steps s).map .event := by
  have hchain := (pairwise_recorded h hsteps).isChain
  rw [Recorder.freeze, events_run, hnew, List.nil_append, Recorder.chronological,
    Sorting.sort_of_isChain hchain]

/-- A result that is none is published now: the clock is read for it, and nothing is recorded. -/
def idle : SessionStep := .publishResult .null .null .null

def joining : SessionStep :=
  .record (.notify .join (.participant ⟨.null, .null, .null, .null⟩) .null .null)

theorem run_idle (k : Nat) (s : Session) :
    recorded (List.replicate k idle) s = [] ∧
      (s.run (List.replicate k idle)).clock = ⟨s.clock.readings, s.clock.used + k⟩ := by
  induction k generalizing s with
  | zero => exact ⟨rfl, rfl⟩
  | succ k ih =>
    obtain ⟨hnone, hclock⟩ := ih (s.step idle).state
    have htick : (s.step idle).state.clock = s.clock.tick := clock_step s idle
    rw [List.replicate_succ, recorded, hnone, run, hclock, htick, List.append_nil]
    exact ⟨recorded_step s idle, by simp [Clock.tick, Nat.add_assoc, Nat.add_comm 1]⟩

theorem recorded_joining (hnow : s.clock.now = .time d) (hd : d.isAware = true) :
    (s.step joining).recorded = [Recorder.joinAt d] := by
  have hevent : Event.ofKind .join (.time d) (.participant ⟨.null, .null, .null, .null⟩) .null =
      .ok (Recorder.joinAt d) := rfl
  rw [recorded_step]
  simp only [joining, Recorder.perform, Clock.stamp_null, hnow, hevent]
  exact (Recorder.returned_append _ _).trans (if_pos hd)

theorem run_joining (h : s.clock.IsSteady) {n : Nat} (hn : s.clock.used ≤ n)
    (hd : s.clock.readings n = .time d) :
    let steps := List.replicate (n - s.clock.used) idle ++ [joining]
    (∀ step ∈ steps, step.isUntimed = true) ∧ recorded steps s = [Recorder.joinAt d] ∧
      (s.run steps).clock = ⟨s.clock.readings, n + 1⟩ := by
  intro steps
  obtain ⟨hnone, hclock⟩ := run_idle (n - s.clock.used) s
  rw [Nat.add_sub_cancel' hn] at hclock
  have haware : d.isAware = true := h.isAware ⟨n, hn, hd⟩
  refine ⟨List.forall_mem_append.mpr ⟨?_, List.forall_mem_singleton.mpr rfl⟩, ?_, ?_⟩
  · intro step hstep
    rw [List.eq_of_mem_replicate hstep]
    rfl
  · rw [recorded_append, hnone, List.nil_append, recorded, recorded,
      recorded_joining (by rw [Clock.now, hclock, hd]) haware, List.append_nil]
  · rw [run_append, run, run, clock_step, hclock]
    rfl

/-- If untimed steps are always frozen as they are recorded, the clock shows its readings in
order. -/
theorem showsInOrder_of_events_freeze (hnew : s.recorder.events = []) (hsteady : s.clock.IsSteady)
    (h : ∀ steps, (∀ step ∈ steps, SessionStep.isUntimed step = true) →
      (s.run steps).recorder.freeze.events = (recorded steps s).map .event) :
    s.clock.ShowsInOrder := by
  intro m n hm hmn d e hd he
  obtain ⟨hfirst, hjoined, hclock⟩ := run_joining hsteady hm hd
  set first := List.replicate (m - s.clock.used) idle ++ [joining]
  have hnext : (s.run first).clock.readings = s.clock.readings := by rw [hclock]
  obtain ⟨hsecond, hjoined', -⟩ := run_joining (s := s.run first) (n := n)
    (isSteady_run hsteady first) (by rw [hclock]; exact hmn) (by rw [hnext, he])
  have hfreeze := h _ (List.forall_mem_append.mpr ⟨hfirst, hsecond⟩)
  rw [Recorder.freeze, events_run, hnew, List.nil_append, recorded_append, hjoined,
    hjoined'] at hfreeze
  have hsorted := List.map_injective_iff.mpr (fun _ _ => Value.event.inj) hfreeze
  rw [List.singleton_append, Recorder.chronological_pair] at hsorted
  split at hsorted
  · -- Events that change places are the same, and no reading is before itself.
    have hsame : e = d := congrArg Event.timestamp (List.cons.inj hsorted).1
    rw [hsame, DateTime.before_self]
  · next hbefore => exact Bool.eq_false_of_not_eq_true hbefore

end Stamps

section Marks

/-- A start that is marked is marked with a reading that was taken. -/
def StartShown (s : Session) : Prop :=
  ∀ d, s.recorder.startTime = some d → s.clock.HasShown d

theorem startShown_step (h : s.StartShown) (hstep : step.isUntimed = true) :
    (s.step step).state.StartShown := by
  intro d hd
  rw [startTime_step] at hd
  cases hmark : s.recorder.startTime with
  | some d' =>
    rw [hmark, Option.some_or] at hd
    obtain rfl := Option.some.inj hd
    exact hasShown_run (h _ hmark) [step]
  | none =>
    rw [hmark, Option.none_or] at hd
    cases step with
    | record call =>
      cases call with
      | started given v =>
        obtain rfl := Value.eq_null_of_isNull hstep
        rw [clock_step, if_pos (by simp [reads, hmark, Value.isNull])]
        exact Clock.hasShown_of_now (Value.eq_time_of_awareTime? hd)
      | _ => cases hd
    | _ => cases hd

theorem startShown_run (h : s.StartShown) (hsteps : ∀ step ∈ steps, step.isUntimed = true) :
    (s.run steps).StartShown := by
  induction steps generalizing s with
  | nil => exact h
  | cons step rest ih =>
    obtain ⟨hstep, hrest⟩ := List.forall_mem_cons.mp hsteps
    exact ih (startShown_step h hstep) hrest

theorem exists_startTime (hsteady : s.clock.IsSteady) (hshown : s.StartShown) (v : Value) :
    let t := (s.step (.record (.started .null v))).state
    ∃ d, t.recorder.startTime = some d ∧ t.clock.HasShown d := by
  intro t
  obtain ⟨now, -, hnow⟩ := hsteady.awareTime?_now
  have hmark : t.recorder.startTime = some (s.recorder.startTime.getD now) := by
    rw [startTime_step]
    cases s.recorder.startTime <;> simp [Clock.stamp_null, hnow]
  exact ⟨_, hmark, startShown_step hshown rfl _ hmark⟩

theorem exists_endTime (hsteady : s.clock.IsSteady) (hnone : s.recorder.endTime = none) :
    let t := (s.step (.record (.ended .null))).state
    ∃ d, t.recorder.endTime = some d ∧ s.clock.WillShow d ∧ t.clock.HasShown d := by
  obtain ⟨now, hnow, haware⟩ := hsteady.awareTime?_now
  refine ⟨now, ?_, Clock.willShow_of_now hnow, ?_⟩
  · simp [endTime_step, hnone, Clock.stamp_null, haware]
  · rw [clock_step, if_pos (by simp [reads, hnone, Value.isNull])]
    exact Clock.hasShown_of_now hnow

theorem times_eq_nil {given? : SessionStep → Option Value}
    (h : ∀ step ∈ steps, given? step = none) : times given? steps s = [] := by
  induction steps generalizing s with
  | nil => rfl
  | cons step rest ih =>
    obtain ⟨hstep, hrest⟩ := List.forall_mem_cons.mp h
    rw [times, hstep, ih hrest]
    rfl

section Run

variable {room : Value} {v : Value}

theorem startTime_of_isSteady (hnew : s.recorder = .new room) (hsteady : s.clock.IsSteady)
    (hsteps : ∀ step ∈ before ++ .record (.started .null v) :: after, step.isUntimed = true)
    (hnone : recorded before s = []) :
    let steps := before ++ .record (.started .null v) :: after
    ∃ d, (s.run steps).recorder.startTime = some d ∧
      ∀ e ∈ recorded steps s, d.NotAfter e.timestamp := by
  intro steps
  obtain ⟨hbefore, hrest⟩ := List.forall_mem_append.mp hsteps
  have hafter := (List.forall_mem_cons.mp hrest).2
  have hsteady' := isSteady_run hsteady before
  have hshown : (s.run before).StartShown := by
    refine startShown_run ?_ hbefore
    intro d hd
    rw [hnew] at hd
    cases hd
  obtain ⟨d, hmark, hd⟩ := exists_startTime hsteady' hshown v
  refine ⟨d, ?_, ?_⟩
  · rw [run_append, run, startTime_run, hmark, Option.some_or]
  · intro e he
    rw [recorded_append, hnone, recorded, recorded_started] at he
    exact (isSteady_run hsteady' [_]).notAfter hd (willShow_recorded hafter e he)

theorem endTime_of_isSteady (hnew : s.recorder = .new room) (hsteady : s.clock.IsSteady)
    (hsteps : ∀ step ∈ before ++ .record (.ended .null) :: after, step.isUntimed = true)
    (hfirst : ∀ step ∈ before, step.endGiven? = none) :
    ∃ d, (s.run (before ++ .record (.ended .null) :: after)).recorder.endTime = some d ∧
      (∀ e ∈ recorded before s, e.timestamp.NotAfter d) ∧
      ∀ e ∈ recorded after (s.run (before ++ [.record (.ended .null)])),
        d.NotAfter e.timestamp := by
  obtain ⟨hbefore, hrest⟩ := List.forall_mem_append.mp hsteps
  have hafter := (List.forall_mem_cons.mp hrest).2
  have hsteady' := isSteady_run hsteady before
  have hnone : (s.run before).recorder.endTime = none := by
    rw [endTime_run, times_eq_nil hfirst, hnew]
    rfl
  obtain ⟨d, hmark, hwill, hd⟩ := exists_endTime hsteady' hnone
  refine ⟨d, ?_, ?_, ?_⟩
  · rw [run_append, run, endTime_run, hmark, Option.some_or]
  · intro e he
    exact hsteady'.notAfter (hasShown_recorded hbefore e he) hwill
  · rw [run_append]
    intro e he
    exact (isSteady_run hsteady' [_]).notAfter hd (willShow_recorded hafter e he)

/-- A session whose clock is steady, and that gives the recorder no times of its own, freezes its
events in the order in which they were recorded, whatever is broadcast and whatever fails, exactly
if the clock shows its readings in order; this it does if they are in step. In any case, if the
session was started before the first of its events, the mark of the start is not later than any; the
mark of the end is not earlier than what was recorded before the first end, and not later than what
came after. -/
theorem chronological_of_isSteady (hnew : s.recorder = .new room) (hsteady : s.clock.IsSteady) :
    (s.clock.ShowsInOrder ↔ ∀ steps : List SessionStep, (∀ step ∈ steps, step.isUntimed = true) →
      (s.run steps).recorder.freeze.events = (recorded steps s).map .event) ∧
    ((∀ d e, s.clock.WillShow d → s.clock.WillShow e → d.InStep e) → s.clock.ShowsInOrder) ∧
    ∀ steps : List SessionStep, (∀ step ∈ steps, step.isUntimed = true) →
      let t := s.run steps
      (∀ before v after, steps = before ++ .record (.started .null v) :: after →
        recorded before s = [] →
          ∃ d, t.recorder.startTime = some d ∧ ∀ e ∈ recorded steps s, d.NotAfter e.timestamp) ∧
      ∀ before after, steps = before ++ .record (.ended .null) :: after →
        (∀ step ∈ before, step.endGiven? = none) →
          ∃ d, t.recorder.endTime = some d ∧
            (∀ e ∈ recorded before s, e.timestamp.NotAfter d) ∧
            ∀ e ∈ recorded after (s.run (before ++ [.record (.ended .null)])),
              d.NotAfter e.timestamp := by
  have hevents : s.recorder.events = [] := by
    rw [hnew]
    rfl
  refine ⟨⟨?_, ?_⟩, hsteady.showsInOrder, fun steps hsteps => ⟨?_, ?_⟩⟩
  · exact fun h steps hsteps => events_freeze hevents h hsteps
  · exact showsInOrder_of_events_freeze hevents hsteady
  · rintro before v after rfl hnone
    exact startTime_of_isSteady hnew hsteady hsteps hnone
  · rintro before after rfl hfirst
    exact endTime_of_isSteady hnew hsteady hsteps hfirst

def ticking : Session :=
  ⟨.new (.str "standup"), .ofList [.time Wire.morning, .time noon], [], [], .empty, "room",
    .ofList [true], []⟩

/-- A start that is refused for what it hands in, one too many, someone who joins, an event that is
none, a result that does not come through, an end, someone who leaves, and one end too many. -/
def tickingSteps : List SessionStep :=
  let someone : Value := .participant ⟨.str "A", .str "p1", .null, .null⟩
  let remark : Value := .result ⟨[], .str "", .bool false, .str "m1", .float .zero⟩
  [.record (.started .null (.list [.str "Bob"])), .record (.started .null .null),
    .record (.notify .join someone .null .null), .record (.addEvent .null),
    .publishResult someone remark .null, .record (.ended .null),
    .record (.notify .leave someone .null .null), .record (.ended .null)]

theorem ticking_succ (n : Nat) : ticking.clock.readings (n + 1) = .time noon := by
  simp [ticking, Clock.ofList]

theorem isSteady_ticking : ticking.clock.IsSteady := by
  intro m n h
  cases n with
  | zero =>
    obtain rfl : m = 0 := by omega
    exact ⟨Wire.morning, Wire.morning, rfl, rfl, _, _, rfl, rfl, le_rfl⟩
  | succ n =>
    cases m with
    | zero => exact ⟨Wire.morning, noon, rfl, ticking_succ n, _, _, rfl, rfl, by decide⟩
    | succ m => exact ⟨noon, noon, ticking_succ m, ticking_succ n, _, _, rfl, rfl, le_rfl⟩

theorem inStep_ticking (d e : DateTime) (hd : ticking.clock.WillShow d)
    (_he : ticking.clock.WillShow e) : d.InStep e := by
  obtain ⟨n, -, hn⟩ := hd
  refine DateTime.inStep_of_place_eq_none ?_
  cases n with
  | zero =>
    obtain rfl := Value.time.inj hn
    rfl
  | succ n =>
    obtain rfl := Value.time.inj ((ticking_succ n).symm.trans hn)
    rfl

theorem chronological_of_isSteady_ticking :
    let t := ticking.run tickingSteps
    ticking.recorder = .new (.str "standup") ∧ ticking.clock.IsSteady ∧
      (∀ step ∈ tickingSteps, step.isUntimed = true) ∧
      t.recorder.freeze.events = (recorded tickingSteps ticking).map .event ∧
      (recorded tickingSteps ticking).length = 2 ∧
      ∃ first last, t.recorder.startTime = some first ∧ t.recorder.endTime = some last ∧
        (∀ e ∈ recorded tickingSteps ticking, first.NotAfter e.timestamp) ∧
        (∀ e ∈ recorded (tickingSteps.take 5) ticking, e.timestamp.NotAfter last) ∧
        ∀ e ∈ recorded (tickingSteps.drop 6) (ticking.run (tickingSteps.take 6)),
          last.NotAfter e.timestamp := by
  intro t
  have hsteps : ∀ step ∈ tickingSteps, step.isUntimed = true := by
    rw [← List.all_eq_true]
    rfl
  have hends : ∀ step ∈ tickingSteps.take 5, step.endGiven? = none := by
    simp [tickingSteps]
  have hnew : ticking.recorder = .new (.str "standup") := rfl
  obtain ⟨hiff, hinStep, hmarks⟩ := chronological_of_isSteady hnew isSteady_ticking
  have hfreeze := hiff.mp (hinStep inStep_ticking) tickingSteps hsteps
  obtain ⟨hstart, hend⟩ := hmarks tickingSteps hsteps
  obtain ⟨first, hfirst, hevents⟩ :=
    hstart (tickingSteps.take 1) .null (tickingSteps.drop 2) rfl rfl
  obtain ⟨last, hlast, hbefore, hafter⟩ :=
    hend (tickingSteps.take 5) (tickingSteps.drop 6) rfl hends
  exact ⟨hnew, isSteady_ticking, hsteps, hfreeze, rfl, first, last, hfirst, hlast, hevents, hbefore,
    hafter⟩

/-- A session on a clock that shows the time of Berlin: half past two, and then ten past two for
ever. -/
def setBack : Session :=
  ⟨.new .null, .ofList [.time .halfPastTwo, .time .tenPastTwo], [], [], .empty, "room",
    .ofList [], []⟩

/-- On a clock that never goes back, who joins second is frozen first. -/
theorem not_chronological_setBack :
    setBack.clock.IsSteady ∧ joining.isUntimed = true ∧
      recorded [joining, joining] setBack =
        [Recorder.joinAt .halfPastTwo, Recorder.joinAt .tenPastTwo] ∧
      (setBack.run [joining, joining]).recorder.freeze.events =
        [.event (Recorder.joinAt .tenPastTwo), .event (Recorder.joinAt .halfPastTwo)] := by
  have hreading (n : Nat) : setBack.clock.readings (n + 1) = .time .tenPastTwo := by
    simp [setBack, Clock.ofList]
  have hrecorded : recorded [joining, joining] setBack =
      [Recorder.joinAt .halfPastTwo, Recorder.joinAt .tenPastTwo] := rfl
  refine ⟨?_, rfl, hrecorded, ?_⟩
  · intro m n h
    cases m with
    | zero =>
      cases n with
      | zero => exact ⟨.halfPastTwo, .halfPastTwo, rfl, rfl, _, _, rfl, rfl, le_rfl⟩
      | succ n => exact ⟨.halfPastTwo, .tenPastTwo, rfl, hreading n, _, _, rfl, rfl, by decide⟩
    | succ m =>
      obtain ⟨n, rfl⟩ := Nat.exists_eq_add_one_of_ne_zero (Nat.ne_zero_of_lt h)
      exact ⟨.tenPastTwo, .tenPastTwo, hreading m, hreading n, _, _, rfl, rfl, le_rfl⟩
  · have hevents : (setBack.run [joining, joining]).recorder.events =
        [Recorder.joinAt .halfPastTwo, Recorder.joinAt .tenPastTwo] :=
      (events_run [joining, joining] setBack).trans hrecorded
    rw [Recorder.freeze, hevents, Recorder.chronological_pair, if_pos (by decide)]
    rfl

end Run

end Marks

end Session

end Proceedings
