import Proceedings.Artifact
import Proceedings.Recorder

/-! # Guards

A guard publishes one artifact, once. The first call that hands it a transcript or a recorder takes
it, whatever becomes of the artifact afterwards; later calls change nothing. A failure reaches the
call that took the guard, and nothing is tried again.
-/

namespace Proceedings

/-- Whether a guard has been taken. -/
inductive PublishState where
  | pending
  | published
  deriving DecidableEq

def PublishState.name : PublishState → String
  | .pending => "pending"
  | .published => "published"

/-- Lets one artifact through, under one name. -/
structure Guard where
  artifactId : Text
  formatter : Formatter
  state : PublishState

/-- What is handed to a guard: a recorder, or a value, which should be a transcript. -/
inductive Submission where
  | recorder (r : Recorder)
  | value (v : Value)

/-- The transcript that a submission stands for: of a recorder, what it holds by now. -/
def Submission.transcript : Submission → Except Failure Transcript
  | .recorder r => .ok r.freeze
  | .value (.transcript t) => .ok t
  | .value v => .error (.breach (.notPublishable v))

namespace Guard

variable {σ : Type} (g : Guard)

/-- The guard of an artifact that is yet to be published. -/
def new (artifactId : Text) (formatter : Formatter) : Guard :=
  ⟨artifactId, formatter, .pending⟩

def isPublished : Bool := g.state = .published

def taken : Guard := { g with state := .published }

/-- What is logged before an artifact is made. -/
def announcement (t : Transcript) : Log :=
  ⟨.info, .ofString "Publishing transcript " ++ g.artifactId⟩ ::
    if t.isEmpty then
      [⟨.warning, .ofString "Transcript " ++ g.artifactId ++
        .ofString " has no recorded data; publishing an empty artifact"⟩]
    else []

/-- Makes the payload of a transcript and delivers it. -/
def deliver (persist : Text → Value → σ → Outcome σ Unit) (t : Transcript) (s : σ) :
    Outcome σ Unit :=
  match g.formatter.payload t with
  | .ok payload => persist g.artifactId payload s
  | .error f => .failed s f

/-- What is logged after an artifact was delivered, or was lost. -/
def conclusion (t : Transcript) : Except Failure Unit → LogLine
  | .ok () => ⟨.info, .ofString "Published transcript " ++ g.artifactId ++
      .ofString s!" ({t.events.length} events)"⟩
  | .error _ => ⟨.error, .ofString "Failed to publish transcript " ++ g.artifactId ++
      .ofString "; it will not be retried"⟩

/-- Publishes what is submitted, unless the guard was taken before. Answers whether this call
published it. -/
def finalize (persist : Text → Value → σ → Outcome σ Unit) (subject : Submission) (s : σ) :
    Outcome (Guard × σ) Bool :=
  match subject.transcript with
  | .error f => .failed (g, s) f
  | .ok t =>
    match g.state with
    | .published =>
      ⟨(g, s), [⟨.debug, .ofString "Transcript " ++ g.artifactId ++
        .ofString " already published; ignoring finalize()"⟩], .ok false⟩
    | .pending =>
      let o := g.deliver persist t s
      ⟨(g.taken, o.state), g.announcement t ++ o.log ++ [g.conclusion t o.answer],
        o.answer.map fun () => true⟩

end Guard

end Proceedings
