import Proceedings.Proofs.Session.Publication
import Proceedings.Proofs.Sink.Archive
import Proceedings.Proofs.Wire.Instant

/-! # What steps leave alone

A step of a session changes the parts that it is about. A guard that is handed something reaches the
sink that it leads to, and at most one artifact arrives there. Nothing depends on what was
broadcast, so the archive is the same without it.
-/

namespace Proceedings

open FileStore

namespace Directory

theorem persist_addsFile (directory : Path) (id : Text) (payload : Value) (files : FileStore) :
    (∃ bytes, AddsFile directory id bytes files (persist directory id payload files).state) ∨
      SameFiles files (persist directory id payload files).state := by
  cases hserialize : serialize payload with
  | error f =>
    refine .inr fun q => ?_
    unfold persist
    cases pathFor directory id <;> simp [hserialize, Outcome.failed]
  | ok content =>
    by_cases h : CanStore directory id files
    · left
      -- a text without bytes leaves an empty file
      cases hencode : Utf8.encode content with
      | ok bytes =>
        cases hbreak : break? directory id files with
        | none => exact ⟨_, (persist_creates hserialize h hbreak hencode).2.addsFile⟩
        | some b => exact ⟨_, (persist_breaks hserialize h hbreak hencode).2.addsFile⟩
      | error e => exact ⟨_, (persist_creates_empty hserialize h hencode).2.addsFile⟩
    · obtain ⟨f, -, -, hgains⟩ := persist_of_not_canStore hserialize h
      exact .inr hgains.sameFiles

end Directory

namespace Sink

/-- A sink and the files after at most one artifact arrived at the sink. -/
inductive Receives (id : Text) : Sink × FileStore → Sink × FileStore → Prop
  | memory (d : Deliveries) (payload : Value) (files : FileStore) :
      Receives id (.memory d, files) (.memory (d ++ [(id, payload)]), files)
  | file {path : Path} {bytes : List UInt8} {files files' : FileStore}
      (h : AddsFile path id bytes files files') :
      Receives id (.directory path, files) (.directory path, files')
  | noFile {path : Path} {files files' : FileStore} (h : SameFiles files files') :
      Receives id (.directory path, files) (.directory path, files')
  | failing (reasons : List (Option Text)) (calls : Nat) (files : FileStore) :
      Receives id (.failing reasons calls, files) (.failing reasons (calls + 1), files)

inductive ReceivesAt (number : Nat) (id : Text) :
    List Sink × FileStore → List Sink × FileStore → Prop
  | none (x : List Sink × FileStore) : ReceivesAt number id x x
  | sink {sinks : List Sink} {files files' : FileStore} {sink sink' : Sink}
      (hsink : sinks[number]? = some sink) (h : Receives id (sink, files) (sink', files')) :
      ReceivesAt number id (sinks, files) (sinks.set number sink', files')

theorem persist_receives (sink : Sink) (id : Text) (payload : Value) (files : FileStore) :
    Receives id (sink, files) (sink.persist id payload files).state := by
  cases sink with
  | memory d => exact .memory d payload files
  | directory path =>
    rcases Directory.persist_addsFile path id payload files with ⟨bytes, h⟩ | h
    · exact .file h
    · exact .noFile h
  | failing reasons calls =>
    rw [persist]
    cases reasons[calls]?.join <;> exact .failing reasons calls files

theorem persistAt_receives (number : Nat) (id : Text) (payload : Value)
    (x : List Sink × FileStore) :
    ReceivesAt number id x (persistAt number id payload x).state := by
  obtain ⟨sinks, files⟩ := x
  unfold persistAt
  split
  · next sink hsink => exact .sink hsink (persist_receives sink id payload files)
  · exact .none _

end Sink

namespace Guard

/-- A call leaves a guard as it was or takes it, and leaves the rest as it was or asks for one
delivery under the guard's name. -/
theorem finalize_state {σ : Type} (g : Guard) (persist : Text → Value → σ → Outcome σ Unit)
    (subject : Submission) (s : σ) :
    let after := (g.finalize persist subject s).state
    (after.1 = g ∨ after.1 = g.taken) ∧
      (after.2 = s ∨ ∃ payload, after.2 = (persist g.artifactId payload s).state) := by
  cases h : subject.transcript with
  | error f =>
    rw [finalize_of_refused h]
    exact ⟨.inl rfl, .inl rfl⟩
  | ok t =>
    cases hg : g.state with
    | published =>
      rw [(finalize_of_published persist s h hg).1]
      exact ⟨.inl rfl, .inl rfl⟩
    | pending =>
      rw [(finalize_of_pending persist s h hg).1]
      refine ⟨.inr rfl, ?_⟩
      cases hp : g.formatter.payload t with
      | error f => exact .inl (by rw [deliver_of_error hp]; rfl)
      | ok payload => exact .inr ⟨payload, by rw [deliver_of_ok hp]⟩

end Guard

namespace SessionStep

def isBroadcast : SessionStep → Bool
  | .publishEvent _ => true
  | .publishResult _ _ _ => true
  | _ => false

/-- A step that sends no result without a time. -/
def isTimed : SessionStep → Bool
  | .publishResult _ _ given => !given.isNull
  | _ => true

end SessionStep

namespace Session

/-- A session after something was handed to the guard with a number: that guard may be taken, and
the sink that it leads to may have got an artifact of its name. -/
structure Hands (number : Nat) (s s' : Session) : Prop where
  frame : s' = { s with gates := s'.gates, sinks := s'.sinks, files := s'.files }
  others : ∀ n, n ≠ number → s'.gates[n]? = s.gates[n]?
  guard : ∀ gate, s.gates[number]? = some gate →
    s'.gates[number]? = some gate ∨ s'.gates[number]? = some gate.taken
  delivery : (s'.sinks = s.sinks ∧ s'.files = s.files) ∨ ∃ gate, s.gates[number]? = some gate ∧
    Sink.ReceivesAt gate.sink gate.guard.artifactId (s.sinks, s.files) (s'.sinks, s'.files)

theorem Hands.refl (number : Nat) (s : Session) : Hands number s s :=
  ⟨rfl, fun _ _ => rfl, fun _ h => .inl h, .inl ⟨rfl, rfl⟩⟩

/-- What a step may change. -/
def Frames (s s' : Session) : SessionStep → Prop
  | .record _ => s' = { s with recorder := s'.recorder, clock := s'.clock }
  | .freeze name => s' = { s with kept := (name, s.recorder.freeze) :: s.kept }
  | .reread _ => s' = s
  | .encode => s' = s
  | .finalize number _ => Hands number s s'
  | .publishEvent _ => s' = { s with transport := s'.transport }
  | .publishResult _ _ _ => s' = { s with transport := s'.transport, clock := s'.clock }

theorem finalize_hands (s : Session) (number : Nat) (subject : Submission) :
    Hands number s (s.finalize number subject).state := by
  unfold finalize
  split
  · exact .refl number s
  · next guard sink hgate =>
    obtain ⟨hguard, hdelivery⟩ :=
      guard.finalize_state (Sink.persistAt sink) subject (s.sinks, s.files)
    have hlt : number < s.gates.length := (List.getElem?_eq_some_iff.mp hgate).1
    generalize guard.finalize (Sink.persistAt sink) subject (s.sinks, s.files) = o at *
    obtain ⟨⟨guard', sinks', files'⟩, log, answer⟩ := o
    refine ⟨rfl, fun n hn => List.getElem?_set_ne hn.symm, ?_, .inr ⟨⟨guard, sink⟩, hgate, ?_⟩⟩
    · rintro gate hother
      obtain rfl := Option.some.inj (hgate.symm.trans hother)
      have hset : (s.gates.set number ⟨guard', sink⟩)[number]? = some ⟨guard', sink⟩ :=
        List.getElem?_set_self hlt
      rcases hguard with rfl | rfl
      · exact .inl hset
      · exact .inr hset
    · rcases hdelivery with h | ⟨payload, h⟩
      · obtain ⟨rfl, rfl⟩ := Prod.mk.inj h
        exact .none _
      · have hreceives := Sink.persistAt_receives sink guard.artifactId payload (s.sinks, s.files)
        rwa [← h] at hreceives

/-- Whether it succeeds or fails, a step changes only what it is about. -/
theorem step_frames (s : Session) (step : SessionStep) : s.Frames (s.step step).state step := by
  cases step with
  | finalize number what =>
    cases hsub : s.submission what with
    | error f =>
      rw [step_of_no_submission hsub]
      exact .refl number s
    | ok subject =>
      rw [step_of_submission hsub]
      exact finalize_hands s number subject
  | record | freeze | reread | encode | publishEvent | publishResult => rfl

section Broadcasts

def outcomes : List SessionStep → Session → List (SessionStep × Log × Except Failure SessionAnswer)
  | [], _ => []
  | step :: rest, s =>
    (step, (s.step step).log, (s.step step).answer) :: outcomes rest (s.step step).state

def withTransport (t : Transport) (s : Session) : Session := { s with transport := t }

theorem step_withTransport {step : SessionStep} (h : step.isBroadcast = false) (t : Transport)
    (s : Session) : (s.withTransport t).step step = (s.step step).within (withTransport t) := by
  cases step with
  | record | freeze | reread | encode => rfl
  | finalize number what =>
    have hsubmission : (s.withTransport t).submission what = s.submission what := by
      cases what <;> rfl
    cases hsub : s.submission what with
    | error f => simp only [step, hsubmission, hsub, Outcome.failed, Outcome.within]
    | ok subject =>
      have hgates : (s.withTransport t).gates = s.gates := rfl
      simp only [step, hsubmission, hsub, finalize, hgates]
      cases s.gates[number]? <;> rfl
  | publishEvent | publishResult => cases h

theorem step_of_isBroadcast {step : SessionStep} (h : step.isBroadcast = true)
    (htimed : step.isTimed = true) (t : Transport) (s : Session) :
    (s.step step).state.withTransport t = s.withTransport t := by
  cases step with
  | publishEvent event => rfl
  | publishResult participant result given =>
    have hstamp (c : Clock) : c.stamp given = (given, c) := by
      rw [Clock.stamp, if_neg (by simpa [SessionStep.isTimed] using htimed)]
    simp only [step, Broadcast.publishResult, hstamp]
    cases Event.ofKind .speech given participant result <;> rfl
  | record | freeze | reread | encode | finalize => cases h

/-- Without its broadcasts, and on any channel, a run does what it does with them. -/
theorem run_withTransport {steps : List SessionStep} (htimed : ∀ step ∈ steps, step.isTimed = true)
    (t : Transport) (s : Session) :
    let silent := steps.filter fun step => !step.isBroadcast
    outcomes silent (s.withTransport t) = (outcomes steps s).filter (fun o => !o.1.isBroadcast) ∧
      (s.withTransport t).run silent = (s.run steps).withTransport t := by
  induction steps generalizing s with
  | nil => exact ⟨rfl, rfl⟩
  | cons step rest ih =>
    obtain ⟨hstep, hrest⟩ := List.forall_mem_cons.mp htimed
    obtain ⟨houtcomes, hrun⟩ := ih hrest (s.step step).state
    cases h : step.isBroadcast with
    | true =>
      rw [step_of_isBroadcast h hstep] at houtcomes hrun
      simp only [outcomes, run, List.filter_cons, h, Bool.not_true, Bool.false_eq_true, if_false]
      exact ⟨houtcomes, hrun⟩
    | false =>
      have hsame := step_withTransport h t s
      simp only [outcomes, run, List.filter_cons, h, Bool.not_false, if_true, hsame,
        Outcome.within, houtcomes]
      exact ⟨trivial, hrun⟩

/-- Every step changes only what it is about: a call on the recorder the recorder and the clock, a
message the channel (and, without a time of its own, the clock), and what is handed to a guard that
guard and its sink, where at most one artifact of its name arrives. So if every result is sent at a
given time, the other steps log and answer the same without the messages, and leave the same
recorder, guards, sinks and files. -/
theorem archive_of_silence (s : Session) :
    (∀ step, s.Frames (s.step step).state step) ∧
    ∀ steps : List SessionStep, (∀ step ∈ steps, step.isTimed = true) →
      let silent := steps.filter fun step => !step.isBroadcast
      outcomes silent s = (outcomes steps s).filter (fun o => !o.1.isBroadcast) ∧
        s.run silent = { s.run steps with transport := s.transport } :=
  ⟨step_frames s, fun _ htimed => run_withTransport htimed s.transport s⟩

def noisy : Session :=
  ⟨.new (.str "standup"), .ofList [], [⟨.new (.ofString "minutes.json") (.json ".json"), 0⟩],
    [.memory []], .empty, "room", .ofList [true], []⟩

/-- Someone joins, and three messages do not come through or are none, before the minutes are
published. -/
def noisySteps : List SessionStep :=
  let time : Value := .time Wire.morning
  let someone : Value := .participant ⟨.str "A", .str "p1", .null, .null⟩
  let remark : Value := .result ⟨[], .str "", .bool false, .str "m1", .float .zero⟩
  [.publishResult someone remark time, .record (.notify .join someone .null time),
    .publishEvent .null, .publishResult .null remark time, .finalize 0 .recorder]

theorem archive_of_silence_noisy :
    (∀ step ∈ noisySteps, step.isTimed = true) ∧
      (noisySteps.filter fun step => !step.isBroadcast).length = 2 ∧
      (noisy.run (noisySteps.filter fun step => !step.isBroadcast)).sinks =
        (noisy.run noisySteps).sinks ∧
      (noisy.run (noisySteps.filter fun step => !step.isBroadcast)).transport.attempts = 0 ∧
      (noisy.run (noisySteps.take 1)).transport.attempts = 1 := by
  have htimed : ∀ step ∈ noisySteps, step.isTimed = true := by
    rw [← List.all_eq_true]
    rfl
  have hrun := ((archive_of_silence noisy).2 noisySteps htimed).2
  exact ⟨htimed, rfl, by rw [hrun], by rw [hrun]; rfl, by cbv⟩

end Broadcasts

end Session

end Proceedings
