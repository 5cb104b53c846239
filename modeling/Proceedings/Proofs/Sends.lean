import Proceedings.Broadcast
import Proceedings.Proofs.Wire.Instant

/-! # What a broadcast sends

A call on a broadcast makes one attempt to send its message, and none if it has no message. So over
any calls the channel accepts the messages of those that answer that they were sent, in their order,
and every attempt belongs to one call that answers.
-/

namespace Proceedings

inductive BroadcastCall where
  | event (v : Value)
  | result (participant result given : Value)

namespace Broadcast

/-- The live message that a call is to send, by the clock that it finds. -/
def message (c : Clock) : BroadcastCall → Except Failure Value
  | .event v => Wire.encodeLive v
  | .result participant result given => do
    let e ← Event.ofKind .speech (c.stamp given).1 participant result
    Wire.encodeLive (.event e)

def perform (destination : String) (call : BroadcastCall) (s : Transport × Clock) :
    Outcome (Transport × Clock) Bool :=
  match call with
  | .event v => (publishEvent destination v s.1).within (·, s.2)
  | .result participant result given => publishResult destination participant result given s.1 s.2

def performAll (destination : String) : List BroadcastCall → Transport × Clock → Transport × Clock
  | [], s => s
  | call :: rest, s => performAll destination rest (perform destination call s).state

/-- What became of a call: the message that it was to send, and its answer. -/
structure Fate where
  message : Except Failure Value
  answer : Except Failure Bool

def fates (destination : String) : List BroadcastCall → Transport × Clock → List Fate
  | [], _ => []
  | call :: rest, s =>
    ⟨message s.2 call, (perform destination call s).answer⟩ ::
      fates destination rest (perform destination call s).state

namespace Fate

def delivered? (destination : String) : Fate → Option Message
  | ⟨.ok payload, .ok true⟩ => some ⟨destination, payload⟩
  | _ => none

def answers (b : Bool) : Fate → Bool
  | ⟨_, .ok answer⟩ => answer == b
  | ⟨_, .error _⟩ => false

end Fate

variable {destination : String} {t t' : Transport} {m : Except Failure Value}
  {a : Except Failure Bool}

section One

/-- What a call does to the channel, by its message: nothing if there is none, and otherwise one
attempt. -/
inductive Sends (destination : String) (t : Transport) :
    Except Failure Value → Transport → Except Failure Bool → Prop
  | refused (f : Failure) : Sends destination t (.error f) t (.error f)
  | accepted {payload : Value} (h : t.fails t.attempts = false) :
      Sends destination t (.ok payload)
        ⟨t.fails, t.attempts + 1, t.accepted ++ [⟨destination, payload⟩]⟩ (.ok true)
  | lost {payload : Value} (h : t.fails t.attempts = true) :
      Sends destination t (.ok payload) ⟨t.fails, t.attempts + 1, t.accepted⟩ (.ok false)

theorem publish_sends (destination : String) (e : Event) (t : Transport) :
    Sends destination t (Wire.encodeLive (.event e)) (publish destination e t).state
      (publish destination e t).answer := by
  unfold publish Transport.send
  cases Wire.encodeLive (.event e) with
  | error f => exact .refused f
  | ok payload =>
    cases h : t.fails t.attempts with
    | true => exact .lost h
    | false => exact .accepted h

theorem perform_sends (destination : String) (call : BroadcastCall) (s : Transport × Clock) :
    Sends destination s.1 (message s.2 call) (perform destination call s).state.1
      (perform destination call s).answer := by
  cases call with
  | event v =>
    cases v
    case event e => exact publish_sends destination e s.1
    all_goals exact .refused _
  | result participant result given =>
    unfold message perform publishResult
    dsimp only
    cases Event.ofKind .speech (s.2.stamp given).1 participant result with
    | error f => exact .refused f
    | ok e => exact publish_sends destination e s.1

theorem Sends.answer_error_iff (h : Sends destination t m t' a) (f : Failure) :
    a = .error f ↔ m = .error f := by
  cases h <;> simp

theorem Sends.answer_ok_iff (h : Sends destination t m t' a) (b : Bool) :
    a = .ok b ↔ (∃ payload, m = .ok payload) ∧ t.fails t.attempts = !b := by
  cases h <;> cases b <;> simp_all

theorem Sends.fails_eq (h : Sends destination t m t' a) : t'.fails = t.fails := by
  cases h <;> rfl

theorem Sends.attempts_eq (h : Sends destination t m t' a) :
    t'.attempts = t.attempts + if a.toBool then 1 else 0 := by
  cases h <;> rfl

theorem Sends.accepted_eq (h : Sends destination t m t' a) :
    t'.accepted = t.accepted ++ (Fate.delivered? destination ⟨m, a⟩).toList := by
  cases h <;> simp [Fate.delivered?]

theorem Sends.eq_of_error (h : Sends destination t m t' a) {f : Failure} (ha : a = .error f) :
    t' = t := by
  cases h with
  | refused => rfl
  | accepted | lost => cases ha

theorem countP_answers (m : Except Failure Value) (a : Except Failure Bool) (rest : List Fate) :
    (Fate.mk m a :: rest).countP (Fate.answers true) +
        (Fate.mk m a :: rest).countP (Fate.answers false) =
      rest.countP (Fate.answers true) + rest.countP (Fate.answers false) +
        if a.toBool then 1 else 0 := by
  rcases a with f | _ | _ <;> simp [Fate.answers, Except.toBool] <;> omega

end One

section Run

/-- The channel after any calls, by what became of them. -/
theorem performAll_eq (destination : String) (calls : List BroadcastCall) (s : Transport × Clock) :
    (performAll destination calls s).1 = ⟨s.1.fails,
      s.1.attempts + (fates destination calls s).countP (Fate.answers true) +
        (fates destination calls s).countP (Fate.answers false),
      s.1.accepted ++ (fates destination calls s).filterMap (Fate.delivered? destination)⟩ := by
  induction calls generalizing s with
  | nil => simp [performAll, fates]
  | cons call rest ih =>
    have hone := perform_sends destination call s
    have hcount := countP_answers (message s.2 call) (perform destination call s).answer
      (fates destination rest (perform destination call s).state)
    rw [performAll, ih, fates, hone.fails_eq, hone.attempts_eq, hone.accepted_eq,
      Transport.mk.injEq]
    refine ⟨rfl, ?_, ?_⟩
    · omega
    · rw [List.filterMap_cons]
      cases Fate.delivered? destination _ <;> simp

/-- After any calls, and with any failures of the channel, it has accepted the messages of the calls
that answered that theirs was sent, in the order of the calls and addressed to the destination, and
it made one attempt for each call that answered. The next call fails as the building or encoding of
its event does, and then leaves the channel alone. Otherwise it makes the next attempt of the
channel, and no other, which decides its answer. -/
theorem sends_accounted (destination : String) (calls : List BroadcastCall) (call : BroadcastCall)
    (t : Transport) (c : Clock) :
    let now := performAll destination calls (t, c)
    let fates := fates destination calls (t, c)
    let o := perform destination call now
    now.1.accepted = t.accepted ++ fates.filterMap (Fate.delivered? destination) ∧
      now.1.attempts =
        t.attempts + fates.countP (Fate.answers true) + fates.countP (Fate.answers false) ∧
      (∀ f, o.answer = .error f ↔ message now.2 call = .error f) ∧
      (∀ f, o.answer = .error f → o.state.1 = now.1) ∧
      (∀ b, o.answer = .ok b ↔
        (∃ payload, message now.2 call = .ok payload) ∧ t.fails now.1.attempts = !b) ∧
      ∀ b, o.answer = .ok b → o.state.1.attempts = now.1.attempts + 1 := by
  intro now fates o
  have hnow := performAll_eq destination calls (t, c)
  have hsends : Sends destination now.1 (message now.2 call) o.state.1 o.answer :=
    perform_sends destination call now
  have hfails : now.1.fails = t.fails := by simp only [now, hnow]
  refine ⟨congrArg Transport.accepted hnow, congrArg Transport.attempts hnow,
    hsends.answer_error_iff, fun f => hsends.eq_of_error, ?_, ?_⟩
  · rw [← hfails]
    exact hsends.answer_ok_iff
  · intro b hb
    rw [hsends.attempts_eq, hb]
    rfl

def flaky : Transport := .ofList [true]

def arrival : Value := .event ⟨Wire.morning, ⟨.str "A", .str "p1", .null, .null⟩, .join⟩

/-- Of an arrival and of nothing no message comes through. The arrival does when it is announced
again, with the second attempt. -/
theorem sends_accounted_flaky :
    let now := performAll "room" [.event arrival, .event .null] (flaky, .ofList [])
    let o := perform "room" (.event arrival) now
    now.1.accepted = [] ∧ now.1.attempts = 1 ∧ o.answer = .ok true ∧ o.state.1.attempts = 2 := by
  intro now o
  obtain ⟨haccepted, hattempts, -, -, hanswer, hmade⟩ :=
    sends_accounted "room" [.event arrival, .event .null] (.event arrival) flaky (.ofList [])
  have hone : now.1.attempts = 1 := hattempts.trans (by cbv)
  have hsent : o.answer = .ok true := by
    refine (hanswer true).mpr ⟨⟨_, rfl⟩, ?_⟩
    change flaky.fails now.1.attempts = false
    rw [hone]
    rfl
  refine ⟨haccepted.trans (by cbv), hone, hsent, ?_⟩
  exact (hmade true hsent).trans (congrArg (· + 1) hone)

end Run

end Broadcast

end Proceedings
