import Mathlib
import Proceedings.Guard

/-! # What a guard asks for

A guard asks its formatter for a payload and its sink for a delivery. Noting these demands in the
state changes nothing else, and the notes show that only the call that takes a guard makes any.
-/

namespace Proceedings.Guard

variable {σ : Type} (g : Guard) (persist : Text → Value → σ → Outcome σ Unit)
  {subject : Submission} {t : Transcript} {s : σ}

/-- What a guard asks of its formatter and its sink. -/
inductive Demand where
  | payload (t : Transcript)
  | delivery (id : Text) (payload : Value)

def finalizeBy (format : Transcript → σ → Outcome σ Value)
    (persist : Text → Value → σ → Outcome σ Unit) (subject : Submission) (s : σ) :
    Outcome (Guard × σ) Bool :=
  match subject.transcript with
  | .error f => .failed (g, s) f
  | .ok t =>
    match g.state with
    | .published =>
      ⟨(g, s), [⟨.debug, .ofString "Transcript " ++ g.artifactId ++
        .ofString " already published; ignoring finalize()"⟩], .ok false⟩
    | .pending =>
      let o := (format t s).andThen fun s payload => persist g.artifactId payload s
      ⟨(g.taken, o.state), g.announcement t ++ o.log ++ [g.conclusion t o.answer],
        o.answer.map fun () => true⟩

theorem finalize_eq_finalizeBy (subject : Submission) (s : σ) :
    g.finalize persist subject s =
      g.finalizeBy (fun t s => ⟨s, [], g.formatter.payload t⟩) persist subject s := by
  unfold finalize finalizeBy
  cases subject.transcript with
  | error f => rfl
  | ok t =>
    cases g.state with
    | published => rfl
    | pending =>
      cases h : g.formatter.payload t <;> simp [deliver, h, Outcome.andThen, Outcome.failed]

/-- Publishes what is submitted and notes each demand, oldest first. -/
def finalizeNoted (subject : Submission) (s : σ × List Demand) :
    Outcome (Guard × σ × List Demand) Bool :=
  g.finalizeBy (fun t s => ⟨(s.1, s.2 ++ [.payload t]), [], g.formatter.payload t⟩)
    (fun id payload s =>
      (persist id payload s.1).within fun world => (world, s.2 ++ [.delivery id payload]))
    subject s

/-- Notes are only notes: without them the outcome is that of `finalize`. -/
theorem finalizeNoted_within (subject : Submission) (s : σ) (notes : List Demand) :
    ((g.finalizeNoted persist subject (s, notes)).within fun x => (x.1, x.2.1)) =
      g.finalize persist subject s := by
  rw [finalize_eq_finalizeBy]
  unfold finalizeNoted finalizeBy
  cases subject.transcript with
  | error f => rfl
  | ok t =>
    cases g.state with
    | published => rfl
    | pending =>
      cases h : g.formatter.payload t <;> simp [h, Outcome.andThen, Outcome.within]

/-- The demands of the call that takes a guard for a transcript: no delivery without a payload. -/
def demandsFor (t : Transcript) : List Demand :=
  .payload t :: match g.formatter.payload t with
    | .ok payload => [.delivery g.artifactId payload]
    | .error _ => []

def demands (subject : Submission) (s : σ) : List Demand :=
  (g.finalizeNoted persist subject (s, [])).state.2.2

variable {g persist}

theorem demands_of_refused {f : Failure} (h : subject.transcript = .error f) :
    g.demands persist subject s = [] := by
  simp [demands, finalizeNoted, finalizeBy, h, Outcome.failed]

theorem demands_of_published (h : subject.transcript = .ok t) (hg : g.state = .published) :
    g.demands persist subject s = [] := by
  simp [demands, finalizeNoted, finalizeBy, h, hg]

theorem demands_of_pending (h : subject.transcript = .ok t) (hg : g.state = .pending) :
    g.demands persist subject s = g.demandsFor t := by
  cases hp : g.formatter.payload t <;>
    simp [demands, finalizeNoted, finalizeBy, demandsFor, h, hg, hp, Outcome.andThen,
      Outcome.within]

/-- Only the call that takes the guard demands anything. -/
theorem demands_eq (g : Guard) (persist : Text → Value → σ → Outcome σ Unit)
    (subject : Submission) (s : σ) :
    g.demands persist subject s =
      if g.state = .pending then subject.transcript.toOption.elim [] g.demandsFor else [] := by
  cases h : subject.transcript with
  | error f => simp [demands_of_refused h, Except.toOption]
  | ok t =>
    cases hg : g.state with
    | published => simp [demands_of_published h hg]
    | pending => simp [demands_of_pending h hg, Except.toOption]

theorem finalize_of_refused {f : Failure} (h : subject.transcript = .error f) :
    g.finalize persist subject s = .failed (g, s) f := by
  simp [finalize, h]

theorem finalize_of_published (persist : Text → Value → σ → Outcome σ Unit) (s : σ)
    (h : subject.transcript = .ok t) (hg : g.state = .published) :
    (g.finalize persist subject s).state = (g, s) ∧
      (g.finalize persist subject s).answer = .ok false := by
  simp [finalize, h, hg]

theorem finalize_of_pending (persist : Text → Value → σ → Outcome σ Unit) (s : σ)
    (h : subject.transcript = .ok t) (hg : g.state = .pending) :
    (g.finalize persist subject s).state = (g.taken, (g.deliver persist t s).state) ∧
      (g.finalize persist subject s).answer =
        (g.deliver persist t s).answer.map fun _ => true := by
  simp [finalize, h, hg]

theorem deliver_of_error {f : Failure} (h : g.formatter.payload t = .error f) :
    g.deliver persist t s = .failed s f := by
  simp [deliver, h]

theorem deliver_of_ok {payload : Value} (h : g.formatter.payload t = .ok payload) :
    g.deliver persist t s = persist g.artifactId payload s := by
  simp [deliver, h]

@[simp] theorem taken_artifactId : g.taken.artifactId = g.artifactId := rfl
@[simp] theorem taken_formatter : g.taken.formatter = g.formatter := rfl
@[simp] theorem taken_state : g.taken.state = .published := rfl
@[simp] theorem taken_taken : g.taken.taken = g.taken := rfl

theorem taken_of_published (hg : g.state = .published) : g.taken = g := by
  cases g; cases hg; rfl

theorem finalize_guard (g : Guard) (persist : Text → Value → σ → Outcome σ Unit)
    (subject : Submission) (s : σ) :
    (g.finalize persist subject s).state.1 =
      if subject.transcript.toOption.isSome then g.taken else g := by
  cases h : subject.transcript with
  | error f => simp [finalize_of_refused h, Outcome.failed, Except.toOption]
  | ok t =>
    cases hg : g.state with
    | published =>
      simp [(finalize_of_published persist s h hg).1, taken_of_published hg, Except.toOption]
    | pending => simp [(finalize_of_pending persist s h hg).1, Except.toOption]

theorem refused_iff {f : Failure} :
    subject.transcript = .error f ↔
      ∃ v, subject = .value v ∧ (∀ t, v ≠ .transcript t) ∧ f = .breach (.notPublishable v) := by
  cases subject with
  | recorder r => simp [Submission.transcript]
  | value v => cases v <;> simp [Submission.transcript, eq_comm]

end Proceedings.Guard
