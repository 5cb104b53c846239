import Proceedings.Proofs.Demand
import Proceedings.Session

/-! # At most one publication

Steps hand transcripts to a guard. The first one takes the guard, and only that step makes the guard
ask its formatter or its sink for anything: whatever follows, the guard stays as it was left.
-/

namespace Proceedings

open Guard

def Gate.taken (gate : Gate) : Gate := ⟨gate.guard.taken, gate.sink⟩

namespace Session

variable {s : Session} {number : Nat} {gate : Gate}

def handedBy (s : Session) (number : Nat) : SessionStep → Option Transcript
  | .finalize n what =>
    if n = number then (s.submission what).toOption.bind fun x => x.transcript.toOption else none
  | _ => none

/-- The transcripts that steps hand to the guard with a number, in order. -/
def handed (number : Nat) : List SessionStep → Session → List Transcript
  | [], _ => []
  | step :: rest, s => (s.handedBy number step).toList ++ handed number rest (s.step step).state

def demandsBy (s : Session) (number : Nat) : SessionStep → List Demand
  | .finalize n what =>
    match s.gates[n]?, s.submission what with
    | some ⟨guard, sink⟩, .ok subject =>
      if n = number then guard.demands (Sink.persistAt sink) subject (s.sinks, s.files) else []
    | _, _ => []
  | _ => []

/-- What steps make the guard with a number ask for, in order. -/
def demands (number : Nat) : List SessionStep → Session → List Demand
  | [], _ => []
  | step :: rest, s => s.demandsBy number step ++ demands number rest (s.step step).state

theorem handed_append (number : Nat) (first second : List SessionStep) (s : Session) :
    s.handed number (first ++ second) =
      s.handed number first ++ (s.run first).handed number second := by
  induction first generalizing s with
  | nil => rfl
  | cons step rest ih => simp [handed, run, ih]

theorem handedBy_of_ne {n : Nat} (hn : n ≠ number) (what : Handover) :
    s.handedBy number (.finalize n what) = none := if_neg hn

theorem handedBy_of_submission {what : Handover} {subject : Submission}
    (h : s.submission what = .ok subject) :
    s.handedBy number (.finalize number what) = subject.transcript.toOption := by
  simp [handedBy, h, Except.toOption]

theorem handedBy_of_no_submission {what : Handover} {f : Failure}
    (h : s.submission what = .error f) (n : Nat) :
    s.handedBy number (.finalize n what) = none := by
  simp [handedBy, h, Except.toOption]

theorem step_of_no_submission {what : Handover} {f : Failure}
    (h : s.submission what = .error f) (n : Nat) :
    s.step (.finalize n what) = .failed s f := by
  simp [step, h]

theorem step_of_submission {what : Handover} {subject : Submission}
    (h : s.submission what = .ok subject) (n : Nat) :
    s.step (.finalize n what) = (s.finalize n subject).map .flag := by
  simp [step, h]

theorem gate_finalize (hgate : s.gates[number]? = some gate) (n : Nat) (what : Handover) :
    (s.step (.finalize n what)).state.gates[number]? =
      some (if (s.handedBy number (.finalize n what)).isSome then gate.taken else gate) := by
  cases hsub : s.submission what with
  | error f =>
    rw [step_of_no_submission hsub, handedBy_of_no_submission hsub]
    exact hgate
  | ok subject =>
    rw [step_of_submission hsub]
    by_cases hn : n = number
    · subst hn
      obtain ⟨guard, sink⟩ := gate
      have hlt : n < s.gates.length := (List.getElem?_eq_some_iff.mp hgate).1
      rw [handedBy_of_submission hsub]
      simp only [Outcome.map, Session.finalize, hgate, Outcome.within, finalize_guard]
      rw [List.getElem?_set_self hlt]
      split <;> rfl
    · rw [handedBy_of_ne hn]
      cases hother : s.gates[n]? with
      | none => simpa [Outcome.map, Session.finalize, hother, Outcome.failed] using hgate
      | some other =>
        simp [Outcome.map, Session.finalize, hother, Outcome.within, List.getElem?_set_ne hn, hgate]

/-- A step takes the guard of a gate if it hands it a transcript, and does nothing else to it. -/
theorem gate_step (hgate : s.gates[number]? = some gate) (step : SessionStep) :
    (s.step step).state.gates[number]? =
      some (if (s.handedBy number step).isSome then gate.taken else gate) := by
  cases step
  case finalize n what => exact gate_finalize hgate n what
  all_goals exact hgate

theorem gate_run (hgate : s.gates[number]? = some gate) (steps : List SessionStep) :
    (s.run steps).gates[number]? =
      some (if s.handed number steps = [] then gate else gate.taken) := by
  induction steps generalizing s gate with
  | nil => exact hgate
  | cons step rest ih =>
    have h := ih (gate_step hgate step)
    cases hh : s.handedBy number step with
    | none => simpa [handed, run, hh] using h
    | some t => simpa [handed, run, hh, Gate.taken] using h

theorem demandsBy_eq (hgate : s.gates[number]? = some gate) (step : SessionStep) :
    s.demandsBy number step =
      if gate.guard.state = .pending then
        (s.handedBy number step).elim [] gate.guard.demandsFor else [] := by
  cases step
  case finalize n what =>
    cases hsub : s.submission what with
    | error f =>
      rw [handedBy_of_no_submission hsub]
      cases h : s.gates[n]? <;> simp [demandsBy, h, hsub]
    | ok subject =>
      by_cases hn : n = number
      · subst hn
        rw [handedBy_of_submission hsub]
        simp [demandsBy, hgate, hsub, demands_eq]
      · rw [handedBy_of_ne hn]
        cases h : s.gates[n]? <;> simp [demandsBy, h, hsub, hn]
  all_goals simp [demandsBy, handedBy]

theorem demands_of_published (hgate : s.gates[number]? = some gate)
    (hg : gate.guard.state = .published) (steps : List SessionStep) :
    s.demands number steps = [] := by
  induction steps generalizing s gate with
  | nil => rfl
  | cons step rest ih =>
    have htaken : gate.taken = gate := by
      rw [Gate.taken, taken_of_published hg]
    have hnext := gate_step hgate step
    rw [htaken, ite_self] at hnext
    rw [demands, demandsBy_eq hgate, if_neg (by simp [hg]), ih hnext hg]
    rfl

/-- Over any run, all that a guard asks for is what it asks for the first transcript. -/
theorem demands_run (hgate : s.gates[number]? = some gate) (hg : gate.guard.state = .pending)
    (steps : List SessionStep) :
    s.demands number steps = (s.handed number steps).head?.elim [] gate.guard.demandsFor := by
  induction steps generalizing s with
  | nil => rfl
  | cons step rest ih =>
    have hnext := gate_step hgate step
    rw [demands, demandsBy_eq hgate, if_pos hg]
    cases hh : s.handedBy number step with
    | none =>
      rw [hh] at hnext
      simpa [handed, hh] using ih hnext
    | some t =>
      rw [hh] at hnext
      have hrest := demands_of_published hnext rfl rest
      simp [handed, hh, hrest]

theorem step_of_refused {what : Handover} {subject : Submission} {f : Failure}
    (hgate : s.gates[number]? = some gate) (hsub : s.submission what = .ok subject)
    (h : subject.transcript = .error f) :
    (s.step (.finalize number what)).state = s ∧
      (s.step (.finalize number what)).answer = .error f := by
  have hset : s.gates.set number gate = s.gates := by
    obtain ⟨hlt, rfl⟩ := List.getElem?_eq_some_iff.mp hgate
    exact List.set_getElem_self hlt
  rw [step_of_submission hsub]
  simp [Outcome.map, Session.finalize, hgate, Outcome.within, finalize_of_refused h,
    Outcome.failed, hset, Except.map]

theorem step_of_published {what : Handover} {subject : Submission} {t : Transcript}
    (hgate : s.gates[number]? = some gate) (hg : gate.guard.state = .published)
    (hsub : s.submission what = .ok subject) (h : subject.transcript = .ok t) :
    (s.step (.finalize number what)).state = s ∧
      (s.step (.finalize number what)).answer = .ok (.flag false) := by
  have hset : s.gates.set number gate = s.gates := by
    obtain ⟨hlt, rfl⟩ := List.getElem?_eq_some_iff.mp hgate
    exact List.set_getElem_self hlt
  obtain ⟨hstate, hanswer⟩ :=
    finalize_of_published (Sink.persistAt gate.sink) (s.sinks, s.files) h hg
  rw [step_of_submission hsub]
  simp [Outcome.map, Session.finalize, hgate, Outcome.within, hstate, hanswer, hset, Except.map]

/-- The call that takes a guard does with sinks and files what the delivery does, and answers yes
if that succeeds. -/
theorem step_of_pending {what : Handover} {subject : Submission} {t : Transcript}
    (hgate : s.gates[number]? = some gate) (hg : gate.guard.state = .pending)
    (hsub : s.submission what = .ok subject) (h : subject.transcript = .ok t) :
    let delivery := gate.guard.deliver (Sink.persistAt gate.sink) t (s.sinks, s.files)
    (s.step (.finalize number what)).state =
        { s with gates := s.gates.set number gate.taken, sinks := delivery.state.1,
                 files := delivery.state.2 } ∧
      (s.step (.finalize number what)).answer = delivery.answer.map fun _ => .flag true := by
  obtain ⟨hstate, hanswer⟩ :=
    finalize_of_pending (Sink.persistAt gate.sink) (s.sinks, s.files) h hg
  rw [step_of_submission hsub]
  simp only [Outcome.map, Session.finalize, hgate, Outcome.within, hstate, hanswer]
  refine ⟨rfl, ?_⟩
  cases (gate.guard.deliver (Sink.persistAt gate.sink) t (s.sinks, s.files)).answer <;> rfl

/-- Over any run a guard keeps its name and is taken by the first transcript that is handed to it,
for good. What it asks of formatter and sink is what that one call asks: a payload, and if there is
one its delivery under the guard's name. The next call answers yes exactly if it is the first one
and both succeed; the failure of either reaches it. All other calls change nothing. -/
theorem published_at_most_once (hgate : s.gates[number]? = some gate)
    (hnew : gate.guard.state = .pending) (steps : List SessionStep) :
    (∃ guard, (s.run steps).gates[number]? = some ⟨guard, gate.sink⟩ ∧
      guard.artifactId = gate.guard.artifactId ∧ guard.formatter = gate.guard.formatter ∧
      (guard.state = .published ↔ s.handed number steps ≠ []) ∧
      (guard.state = .published → ∀ more,
        (s.run (steps ++ more)).gates[number]? = some ⟨guard, gate.sink⟩)) ∧
    s.demands number steps =
      (match s.handed number steps with
        | [] => []
        | t :: _ => .payload t :: match gate.guard.formatter.payload t with
          | .ok payload => [.delivery gate.guard.artifactId payload]
          | .error _ => []) ∧
    ∀ what subject, (s.run steps).submission what = .ok subject →
      let now := s.run steps
      let call := now.step (.finalize number what)
      (∀ v, subject = .value v → (∀ t, v ≠ .transcript t) →
        call.state = now ∧ call.answer = .error (.breach (.notPublishable v))) ∧
      ∀ t, subject.transcript = .ok t →
        (s.handed number steps ≠ [] → call.state = now ∧ call.answer = .ok (.flag false)) ∧
        (s.handed number steps = [] →
          (∀ f, gate.guard.formatter.payload t = .error f →
            call.answer = .error f ∧ call.state.sinks = now.sinks ∧
              call.state.files = now.files) ∧
          ∀ payload, gate.guard.formatter.payload t = .ok payload →
            let delivery := Sink.persistAt gate.sink gate.guard.artifactId payload
              (now.sinks, now.files)
            call.answer = delivery.answer.map (fun _ => .flag true) ∧
              call.state.sinks = delivery.state.1 ∧ call.state.files = delivery.state.2) := by
  have hrun := gate_run hgate steps
  refine ⟨?_, ?_, ?_⟩
  · refine ⟨(if s.handed number steps = [] then gate else gate.taken).guard, ?_⟩
    have hmore : ∀ more, s.handed number steps ≠ [] →
        (s.run (steps ++ more)).gates[number]? = some gate.taken := by
      intro more h
      rw [gate_run hgate, handed_append, if_neg (by simp [h])]
    by_cases h : s.handed number steps = []
    · simp [hrun, h, hnew]
    · simpa [hrun, h, Gate.taken] using fun more => hmore more h
  · rw [demands_run hgate hnew]
    cases s.handed number steps <;> rfl
  · intro what subject hsub now call
    refine ⟨?_, fun t ht => ⟨fun h => ?_, fun h => ?_⟩⟩
    · intro v hv hnot
      exact step_of_refused hrun hsub (refused_iff.mpr ⟨v, hv, hnot, rfl⟩)
    · rw [if_neg h] at hrun
      exact step_of_published hrun rfl hsub ht
    · rw [if_pos h] at hrun
      obtain ⟨hstate, hanswer⟩ := step_of_pending hrun hnew hsub ht
      constructor
      · intro f hf
        rw [deliver_of_error hf] at hstate hanswer
        have hsinks := congrArg sinks hstate
        have hfiles := congrArg files hstate
        exact ⟨hanswer, hsinks, hfiles⟩
      · intro payload hp
        rw [deliver_of_ok hp] at hstate hanswer
        exact ⟨hanswer, congrArg sinks hstate, congrArg files hstate⟩

/-- A session with one guard, whose sink turns the first two deliveries away. -/
def unlucky : Session :=
  let guard := Guard.new (.ofString "minutes.json") (Formatter.json ".json")
  ⟨.new (.str "standup"), .ofList [], [⟨guard, 0⟩],
    [.failing [some (.ofString "down"), some (.ofString "down")] 0], .empty, "room", .ofList [],
    []⟩

/-- A guard whose delivery failed is not tried again, not even with what was recorded since. -/
theorem published_at_most_once_unlucky :
    let start : RecorderCall := .started (.time ⟨⟨0, by decide⟩, some .utc, none⟩) .null
    let steps := [.finalize 0 .recorder, .record start, .finalize 0 .recorder]
    unlucky.gates[0]? = some ⟨.new (.ofString "minutes.json") (.json ".json"), 0⟩ ∧
      (Guard.new (.ofString "minutes.json") (.json ".json")).state = .pending ∧
      unlucky.handed 0 steps ≠ [] ∧
      (unlucky.run steps).sinks = [.failing [some (.ofString "down"), some (.ofString "down")] 1] ∧
      ((unlucky.run steps).step (.finalize 0 .recorder)).answer = .ok (.flag false) := by
  intro start steps
  have hgate : unlucky.gates[0]? = some ⟨.new (.ofString "minutes.json") (.json ".json"), 0⟩ := rfl
  have hhanded : unlucky.handed 0 steps ≠ [] := List.cons_ne_nil _ _
  obtain ⟨-, -, hnext⟩ := published_at_most_once hgate rfl steps
  have hsecond := ((hnext .recorder _ rfl).2 _ rfl).1 hhanded
  exact ⟨hgate, rfl, hhanded, by cbv, hsecond.2⟩

end Session

end Proceedings
