import Proceedings.Broadcast
import Proceedings.Guard
import Proceedings.Sink.Basic

/-! # Sessions

In a session a recorder, guards with their sinks, and a broadcast work side by side. Recorder and
broadcast share the clock, sinks share the files, and nothing else is shared: a step touches the
parts that it is about.
-/

namespace Proceedings

/-- A way out of a session: a guard, and the number of the sink that it leads to. -/
structure Gate where
  guard : Guard
  sink : Nat

/-- The state of a session. -/
structure Session where
  recorder : Recorder
  clock : Clock
  gates : List Gate
  sinks : List Sink
  files : FileStore
  destination : String
  transport : Transport
  /-- Frozen transcripts by the names that they were kept under. -/
  kept : List (String × Transcript)

/-- What a step hands to a guard: the recorder, a transcript that was kept, or a value. -/
inductive Handover where
  | recorder
  | kept (name : String)
  | value (v : Value)

/-- A step of a session. -/
inductive SessionStep where
  | record (call : RecorderCall)
  | freeze (name : String)
  | reread (name : String)
  | encode
  | finalize (number : Nat) (what : Handover)
  | publishEvent (event : Value)
  | publishResult (participant result given : Value)

/-- The answer of a step. -/
inductive SessionAnswer where
  | nothing
  | event (e : Event)
  | transcript (t : Transcript)
  | text (t : Text)
  | flag (b : Bool)

namespace Session

variable (s : Session)

def keptUnder (name : String) : Except Failure Transcript :=
  match s.kept.find? (·.1 == name) with
  | some (_, t) => .ok t
  | none => .error (.notDelivered (.ofString name))

/-- What a handover submits to a guard. -/
def submission : Handover → Except Failure Submission
  | .recorder => .ok (.recorder s.recorder)
  | .kept name => (s.keptUnder name).map fun t => .value (.transcript t)
  | .value v => .ok (.value v)

/-- Hands a submission to the guard with a number. -/
def finalize (number : Nat) (subject : Submission) : Outcome Session Bool :=
  match s.gates[number]? with
  | none => .failed s .indexRange
  | some ⟨guard, sink⟩ =>
    (guard.finalize (Sink.persistAt sink) subject (s.sinks, s.files)).within
      fun (guard, sinks, files) =>
        { s with gates := s.gates.set number ⟨guard, sink⟩, sinks := sinks, files := files }

/-- The text of the artifact that the recorder would give by now, if it need not conform to the
schema. -/
def encode : Except Failure Text := do
  serialize (← Wire.encodeTranscript (.transcript s.recorder.freeze))

def step : SessionStep → Outcome Session SessionAnswer
  | .record call =>
    ((s.recorder.perform s.clock call).within
      fun (recorder, clock) => { s with recorder := recorder, clock := clock }).map
        fun e? => match e? with
          | some e => .event e
          | none => .nothing
  | .freeze name =>
    let t := s.recorder.freeze
    .done { s with kept := (name, t) :: s.kept } (.transcript t)
  | .reread name => ⟨s, [], (s.keptUnder name).map .transcript⟩
  | .encode => ⟨s, [], s.encode.map .text⟩
  | .finalize number what =>
    match s.submission what with
    | .ok subject => (s.finalize number subject).map .flag
    | .error f => .failed s f
  | .publishEvent event =>
    ((Broadcast.publishEvent s.destination event s.transport).within
      fun transport => { s with transport := transport }).map .flag
  | .publishResult participant result given =>
    ((Broadcast.publishResult s.destination participant result given s.transport s.clock).within
      fun (transport, clock) => { s with transport := transport, clock := clock }).map .flag

/-- Carries out steps one after the other, whether or not they succeed. -/
def run : List SessionStep → Session → Session
  | [], s => s
  | step :: rest, s => run rest (s.step step).state

end Session

end Proceedings
