import Proceedings.Failure

/-! # Outcomes of calls

A call leaves a state behind, logs lines on its way and ends in an answer or a failure. The state
counts in either case: what a call did before it failed stays done.
-/

namespace Proceedings

/-- How much a line of the log matters. -/
inductive Level where
  | debug
  | info
  | warning
  | error
  deriving DecidableEq

def Level.name : Level → String
  | .debug => "DEBUG"
  | .info => "INFO"
  | .warning => "WARNING"
  | .error => "ERROR"

/-- A line of the log. -/
structure LogLine where
  level : Level
  message : Text
  deriving DecidableEq

/-- The lines of a log, oldest first. -/
abbrev Log := List LogLine

structure Outcome (σ α : Type) where
  state : σ
  log : Log
  answer : Except Failure α

namespace Outcome

variable {σ τ α β : Type}

def done (s : σ) (a : α) : Outcome σ α := ⟨s, [], .ok a⟩

def failed (s : σ) (f : Failure) : Outcome σ α := ⟨s, [], .error f⟩

/-- The same outcome, seen as that of a call on a state of which this one is a part. -/
def within (f : σ → τ) (o : Outcome σ α) : Outcome τ α := ⟨f o.state, o.log, o.answer⟩

/-- The same outcome with another answer. -/
def map (f : α → β) (o : Outcome σ α) : Outcome σ β := ⟨o.state, o.log, o.answer.map f⟩

/-- A call and, if it succeeds, the one after it. -/
def andThen (o : Outcome σ α) (next : σ → α → Outcome σ β) : Outcome σ β :=
  match o.answer with
  | .error f => ⟨o.state, o.log, .error f⟩
  | .ok a =>
    let n := next o.state a
    ⟨n.state, o.log ++ n.log, n.answer⟩

end Outcome

end Proceedings
