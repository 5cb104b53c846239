import Proceedings.Proofs.Recorder.Offers

/-! # The marks of a recorder

A call that starts or ends a session sets the mark for it if there is none yet and the time that it
is given, or reads from the clock, has an offset. A call reads the clock, once, if it needs a time
and was given none.
-/

namespace Proceedings

def Value.awareTime? : Value → Option DateTime
  | .time d => if d.isAware then some d else none
  | _ => none

theorem Value.awareTime?_eq (v : Value) : v.awareTime? = v.recordedTime.toOption := by
  cases v with
  | time d =>
    rw [awareTime?, recordedTime_time]
    cases d.isAware <;> rfl
  | _ => rfl

theorem Value.isSome_awareTime? (v : Value) : v.awareTime?.isSome = v.isAwareTime := by
  rw [awareTime?_eq, isAwareTime_eq]
  cases v.recordedTime <;> rfl

theorem Value.eq_null_of_isNull {v : Value} (h : v.isNull = true) : v = .null := by
  cases v <;> first | rfl | cases h

namespace RecorderCall

@[simp] def roomName? : RecorderCall → Option Value
  | .setRoomName name => some name
  | _ => none

@[simp] def startGiven? : RecorderCall → Option Value
  | .started given _ => some given
  | _ => none

@[simp] def endGiven? : RecorderCall → Option Value
  | .ended given => some given
  | _ => none

/-- Whether a call on a recorder reads the clock: it is given no time, and needs one for a mark that
is not set or for an event. -/
@[simp] def reads (r : Recorder) : RecorderCall → Bool
  | .started given _ => r.startTime.isNone && given.isNull
  | .ended given => r.endTime.isNone && given.isNull
  | .notify _ _ _ given => given.isNull
  | _ => false

def givenTime (time : Value) : RecorderCall → RecorderCall
  | .started _ initial => .started time initial
  | .ended _ => .ended time
  | .notify k participant result _ => .notify k participant result time
  | call => call

end RecorderCall

namespace Clock

theorem stamp_null (c : Clock) : c.stamp .null = (c.now, c.tick) := rfl

theorem stamp_snd (c : Clock) (given : Value) :
    (c.stamp given).2 = if given.isNull then c.tick else c := by
  unfold stamp
  split <;> rfl

theorem exists_stamp_now (c : Clock) : ∃ c', c.stamp c.now = (c.now, c') := by
  unfold stamp
  split <;> exact ⟨_, rfl⟩

end Clock

/-- What becomes of a mark and the clock, and when the time is accepted. -/
theorem settle_spec (mark : Option DateTime) (verb : String) (given : Value) (c : Clock) :
    (settle mark verb given c).state = (mark.or (c.stamp given).1.awareTime?,
        if mark.isNone && given.isNull then c.tick else c) ∧
      (settle mark verb given c).answer.isOk =
        (mark.isSome || (c.stamp given).1.isAwareTime) := by
  cases mark with
  | some d => exact ⟨rfl, rfl⟩
  | none =>
    have hclock := c.stamp_snd given
    rw [settle, Value.awareTime?_eq, Value.isAwareTime_eq]
    dsimp only
    cases (c.stamp given).1.recordedTime with
    | ok d => exact ⟨congrArg (some d, ·) hclock, rfl⟩
    | error f => exact ⟨congrArg (none, ·) hclock, rfl⟩

/-- A mark that is read from the clock is set as if the reading were given. -/
theorem settle_null (verb : String) (c : Clock) :
    settle none verb .null c = (settle none verb c.now c).within fun x => (x.1, c.tick) := by
  obtain ⟨c', hnow⟩ := c.exists_stamp_now
  simp only [settle, Clock.stamp_null, hnow]
  cases c.now.recordedTime <;> rfl

namespace Recorder

theorem state_startedWith (r : Recorder) (c : Clock) (v : Value) :
    (if v.isNull then Outcome.done (r, c) (none : Option Event)
      else ((r.addInitial v).within (·, c)).map fun _ => none).state =
      ({ r with initial := gather r.initial (items v) }, c) := by
  cases v with
  | null => rfl
  | _ => exact congrArg (·, c) (state_addInitial r _)

theorem refusesStart_eq (r : Recorder) (c : Clock) (given : Value) :
    r.refusesStart c given = !(settle r.startTime "started" given c).answer.isOk := by
  rw [(settle_spec r.startTime "started" given c).2, refusesStart]
  cases r.startTime <;> rfl

theorem state_started (r : Recorder) (c : Clock) (given v : Value) :
    (r.perform c (.started given v)).state =
      ({ r with
          startTime := r.startTime.or (c.stamp given).1.awareTime?,
          initial := gather r.initial (r.presented c (.started given v)) },
        if r.startTime.isNone && given.isNull then c.tick else c) := by
  have hstate := (settle_spec r.startTime "started" given c).1
  rw [perform, presented, refusesStart_eq, Outcome.andThen]
  generalize settle r.startTime "started" given c = o at *
  obtain ⟨_, log, answer⟩ := o
  subst hstate
  cases answer with
  | error f => rfl
  | ok _ => exact state_startedWith _ _ v

theorem state_ended (r : Recorder) (c : Clock) (given : Value) :
    (r.perform c (.ended given)).state =
      ({ r with endTime := r.endTime.or (c.stamp given).1.awareTime? },
        if r.endTime.isNone && given.isNull then c.tick else c) :=
  congrArg (fun x => ({ r with endTime := x.1 }, x.2)) (settle_spec r.endTime "ended" given c).1

theorem frame_append (r : Recorder) (e : Event) :
    (r.append e).state = { r with events := (r.append e).state.events } := by
  rw [append_eq]
  split <;> rfl

theorem frame_notify (r : Recorder) (c : Clock) (k : EventKind) (participant result given : Value) :
    (r.perform c (.notify k participant result given)).state =
      ({ r with events := (r.perform c (.notify k participant result given)).state.1.events },
        (c.stamp given).2) := by
  rw [perform]
  dsimp only
  split
  · exact congrArg (·, (c.stamp given).2) (frame_append r _)
  · rfl

theorem frame_addEvent (r : Recorder) (c : Clock) (v : Value) :
    (r.perform c (.addEvent v)).state =
      ({ r with events := (r.perform c (.addEvent v)).state.1.events }, c) := by
  cases v with
  | event e => exact congrArg (·, c) (frame_append r e)
  | _ => rfl

theorem state_perform (r : Recorder) (c : Clock) (call : RecorderCall) :
    (r.perform c call).state =
      (⟨call.roomName?.getD r.roomName,
          r.startTime.or (call.startGiven?.bind fun given => (c.stamp given).1.awareTime?),
          r.endTime.or (call.endGiven?.bind fun given => (c.stamp given).1.awareTime?),
          gather r.initial (r.presented c call), r.events ++ (r.perform c call).returned⟩,
        if call.reads r then c.tick else c) := by
  rw [← (grows_perform r c call).events]
  cases call with
  | setRoomName name => simp [perform, Outcome.done, presented, gather]
  | started given v => simp [state_started]
  | ended given => simp [state_ended, presented, gather]
  | addInitial v => simp [perform, state_addInitial, presented, Outcome.map, Outcome.within]
  | addEvent v =>
    rw [frame_addEvent]
    simp [presented, gather]
  | notify k participant result given =>
    rw [frame_notify]
    refine Prod.ext ?_ (c.stamp_snd given)
    simp [presented, gather]

theorem startTime_perform (r : Recorder) (c : Clock) (call : RecorderCall) :
    (r.perform c call).state.1.startTime =
      r.startTime.or (call.startGiven?.bind fun given => (c.stamp given).1.awareTime?) := by
  rw [state_perform]

theorem endTime_perform (r : Recorder) (c : Clock) (call : RecorderCall) :
    (r.perform c call).state.1.endTime =
      r.endTime.or (call.endGiven?.bind fun given => (c.stamp given).1.awareTime?) := by
  rw [state_perform]

theorem clock_perform (r : Recorder) (c : Clock) (call : RecorderCall) :
    (r.perform c call).state.2 = if call.reads r then c.tick else c := by
  rw [state_perform]

/-- A call that reads the clock does what it does when it is given the reading. -/
theorem perform_of_reads {r : Recorder} {call : RecorderCall} (h : call.reads r = true)
    (c : Clock) :
    r.perform c call = (r.perform c (call.givenTime c.now)).within fun x => (x.1, c.tick) := by
  cases call with
  | started given v =>
    obtain ⟨hmark, hgiven⟩ := Bool.and_eq_true_iff.mp h
    obtain rfl := Value.eq_null_of_isNull hgiven
    simp only [RecorderCall.givenTime, perform, Option.isNone_iff_eq_none.mp hmark, settle_null]
    generalize settle none "started" c.now c = o
    obtain ⟨⟨mark, c'⟩, log, answer⟩ := o
    cases answer with
    | error f => rfl
    | ok _ =>
      simp only [Outcome.within, Outcome.andThen]
      cases v.isNull <;> rfl
  | ended given =>
    obtain ⟨hmark, hgiven⟩ := Bool.and_eq_true_iff.mp h
    obtain rfl := Value.eq_null_of_isNull hgiven
    simp only [RecorderCall.givenTime, perform, Option.isNone_iff_eq_none.mp hmark, settle_null]
    rfl
  | notify k participant result given =>
    obtain rfl := Value.eq_null_of_isNull h
    obtain ⟨c', hnow⟩ := c.exists_stamp_now
    simp only [RecorderCall.givenTime, perform, Clock.stamp_null, hnow]
    cases Event.ofKind k c.now participant result <;> rfl
  | setRoomName | addInitial | addEvent => cases h

end Recorder

end Proceedings
