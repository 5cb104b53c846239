import Proceedings.Proofs.Recorder.Marks
import Proceedings.Proofs.Session.Frame

/-! # The time in a session

A session is marked as started at the first time with an offset that a start is given or finds on
the clock, and as ended likewise; a mark that is set stays. The clock is read by the steps that need
a time and are given none, once each, and a step that reads it does what it does when it is given
that reading.
-/

namespace Proceedings

namespace SessionStep

@[simp] def startGiven? : SessionStep → Option Value
  | .record call => call.startGiven?
  | _ => none

@[simp] def endGiven? : SessionStep → Option Value
  | .record call => call.endGiven?
  | _ => none

def givenTime (time : Value) : SessionStep → SessionStep
  | .record call => .record (call.givenTime time)
  | .publishResult participant result _ => .publishResult participant result time
  | step => step

end SessionStep

namespace Session

variable {s : Session}

def withClock (c : Clock) (s : Session) : Session := { s with clock := c }

/-- Whether a step reads the clock: it is given no time, and needs one for a mark that is not set,
for an event, or for a message. -/
def reads (s : Session) : SessionStep → Bool
  | .record call => call.reads s.recorder
  | .publishResult _ _ given => given.isNull
  | _ => false

def readers : List SessionStep → Session → List SessionStep
  | [], _ => []
  | step :: rest, s =>
    (if s.reads step then [step] else []) ++ readers rest (s.step step).state

/-- The times of the steps that are given one or find it on the clock, in order. -/
def times (given? : SessionStep → Option Value) : List SessionStep → Session → List Value
  | [], _ => []
  | step :: rest, s =>
    ((given? step).map fun given => (s.clock.stamp given).1).toList ++
      times given? rest (s.step step).state

theorem recorder_step (s : Session) (step : SessionStep) :
    (s.step step).state.recorder =
      match step with
      | .record call => (s.recorder.perform s.clock call).state.1
      | _ => s.recorder := by
  cases step with
  | finalize number what =>
    have hframe := congrArg recorder (step_frames s (.finalize number what)).frame
    exact hframe
  | record | freeze | reread | encode | publishEvent | publishResult => rfl

theorem clock_step (s : Session) (step : SessionStep) :
    (s.step step).state.clock = if s.reads step then s.clock.tick else s.clock := by
  cases step with
  | record call => exact Recorder.clock_perform s.recorder s.clock call
  | finalize number what =>
    have hframe := congrArg clock (step_frames s (.finalize number what)).frame
    exact hframe
  | publishResult participant result given =>
    rw [reads, ← Clock.stamp_snd]
    simp only [step, Broadcast.publishResult]
    cases Event.ofKind .speech (s.clock.stamp given).1 participant result <;> rfl
  | freeze | reread | encode | publishEvent => rfl

theorem startTime_step (s : Session) (step : SessionStep) :
    (s.step step).state.recorder.startTime =
      s.recorder.startTime.or
        (step.startGiven?.bind fun given => (s.clock.stamp given).1.awareTime?) := by
  rw [recorder_step]
  cases step with
  | record call => exact Recorder.startTime_perform s.recorder s.clock call
  | _ => exact s.recorder.startTime.or_none.symm

theorem endTime_step (s : Session) (step : SessionStep) :
    (s.step step).state.recorder.endTime =
      s.recorder.endTime.or
        (step.endGiven?.bind fun given => (s.clock.stamp given).1.awareTime?) := by
  rw [recorder_step]
  cases step with
  | record call => exact Recorder.endTime_perform s.recorder s.clock call
  | _ => exact s.recorder.endTime.or_none.symm

/-- A step that reads the clock does what it does when it is given the reading. -/
theorem step_of_reads {step : SessionStep} (h : s.reads step = true) :
    s.step step = (s.step (step.givenTime s.clock.now)).within (withClock s.clock.tick) := by
  cases step with
  | record call =>
    simp only [SessionStep.givenTime, Session.step, Recorder.perform_of_reads h s.clock]
    rfl
  | publishResult participant result given =>
    obtain rfl := Value.eq_null_of_isNull h
    obtain ⟨c', hnow⟩ := s.clock.exists_stamp_now
    simp only [SessionStep.givenTime, Session.step, Broadcast.publishResult, Clock.stamp_null, hnow]
    cases Event.ofKind .speech s.clock.now participant result <;> rfl
  | freeze | reread | encode | finalize | publishEvent => cases h

section Run

theorem run_append (first second : List SessionStep) (s : Session) :
    s.run (first ++ second) = (s.run first).run second := by
  induction first generalizing s with
  | nil => rfl
  | cons step rest ih => exact ih _

/-- The clock has moved on by one reading for each step that read it. -/
theorem clock_run (steps : List SessionStep) (s : Session) :
    (s.run steps).clock = ⟨s.clock.readings, s.clock.used + (readers steps s).length⟩ := by
  induction steps generalizing s with
  | nil => rfl
  | cons step rest ih =>
    rw [run, ih, clock_step, readers]
    cases s.reads step with
    | true => simp [Clock.tick, Nat.add_assoc, Nat.add_comm 1]
    | false => simp

/-- A mark that each step sets to its time, unless it is set, is the first of the times. -/
theorem mark_run (mark : Session → Option DateTime) {given? : SessionStep → Option Value}
    (hstep : ∀ s step, mark (s.step step).state =
      (mark s).or ((given? step).bind fun given => (s.clock.stamp given).1.awareTime?))
    (steps : List SessionStep) (s : Session) :
    mark (s.run steps) = (mark s).or ((times given? steps s).findSome? Value.awareTime?) := by
  induction steps generalizing s with
  | nil => exact (mark s).or_none.symm
  | cons step rest ih =>
    rw [run, ih, hstep, Option.or_assoc, times, List.findSome?_append]
    cases given? step with
    | none => simp
    | some given => simp

theorem startTime_run (steps : List SessionStep) (s : Session) :
    (s.run steps).recorder.startTime =
      s.recorder.startTime.or
        ((times SessionStep.startGiven? steps s).findSome? Value.awareTime?) :=
  mark_run (·.recorder.startTime) startTime_step steps s

theorem endTime_run (steps : List SessionStep) (s : Session) :
    (s.run steps).recorder.endTime =
      s.recorder.endTime.or ((times SessionStep.endGiven? steps s).findSome? Value.awareTime?) :=
  mark_run (·.recorder.endTime) endTime_step steps s

/-- However a session runs, it is marked as started at the first time with an offset among those of
its starts, and as ended at the first among those of its ends, and a mark that is set never changes.
The clock is read once by each step that has to, and the reading that is next is the one that such a
step gets: it does what it does when it is given that reading. -/
theorem marks_and_readings (s : Session) (steps : List SessionStep) :
    let t := s.run steps
    t.recorder.startTime = s.recorder.startTime.or
        ((times SessionStep.startGiven? steps s).findSome? Value.awareTime?) ∧
      t.recorder.endTime = s.recorder.endTime.or
        ((times SessionStep.endGiven? steps s).findSome? Value.awareTime?) ∧
      (∀ before after d, steps = before ++ after →
        ((s.run before).recorder.startTime = some d → t.recorder.startTime = some d) ∧
          ((s.run before).recorder.endTime = some d → t.recorder.endTime = some d)) ∧
      t.clock = ⟨s.clock.readings, s.clock.used + (readers steps s).length⟩ ∧
      ∀ before step after, steps = before ++ step :: after → (s.run before).reads step = true →
        let k := s.clock.used + (readers before s).length
        (s.run before).step step =
          ((s.run before).step (step.givenTime (s.clock.readings k))).within
            (withClock ⟨s.clock.readings, k + 1⟩) := by
  refine ⟨startTime_run steps s, endTime_run steps s, ?_, clock_run steps s, ?_⟩
  · rintro before after d rfl
    rw [run_append]
    constructor
    · intro h
      rw [startTime_run, h, Option.some_or]
    · intro h
      rw [endTime_run, h, Option.some_or]
  · rintro before step after rfl h
    have hstep := step_of_reads h
    rw [clock_run] at hstep
    exact hstep

def noon : DateTime := ⟨⟨63844891200000000, by decide⟩, some .utc, none⟩

/-- A session on a clock that at first has no offset, then shows nine, and then twelve for ever. -/
def waking : Session :=
  ⟨.new (.str "standup"),
    .ofList [.time ⟨Wire.morning.reading, none, none⟩, .time Wire.morning, .time noon], [], [],
    .empty,
    "room", .ofList [], []⟩

/-- A start that is refused for its time, a result that is none, a start that is refused for what it
hands in, one too many, and an end at a given time. -/
def wakingSteps : List SessionStep :=
  [.record (.started .null .null), .publishResult .null .null .null,
    .record (.started .null (.list [.str "Bob"])), .record (.started .null .null),
    .record (.ended (.time Wire.morning))]

theorem marks_and_readings_waking :
    let t := waking.run wakingSteps
    t.recorder.startTime = some noon ∧ t.recorder.endTime = some Wire.morning ∧ t.clock.used = 3 ∧
      (waking.run (wakingSteps.take 1)).reads (.publishResult .null .null .null) = true ∧
      (waking.run (wakingSteps.take 1)).step (.publishResult .null .null .null) =
        ((waking.run (wakingSteps.take 1)).step
          (.publishResult .null .null (.time Wire.morning))).within
            (withClock ⟨waking.clock.readings, 2⟩) := by
  intro t
  obtain ⟨hstart, hend, -, hclock, hreads⟩ := marks_and_readings waking wakingSteps
  exact ⟨hstart, hend, congrArg Clock.used hclock, rfl,
    hreads (wakingSteps.take 1) (.publishResult .null .null .null) (wakingSteps.drop 2) rfl rfl⟩

end Run

end Session

end Proceedings
