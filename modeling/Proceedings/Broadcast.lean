import Proceedings.Clock
import Proceedings.Outcome
import Proceedings.Wire.Encode

/-! # Broadcast

Events are sent to a destination as live messages, one message an event and one attempt a message.
An event that cannot be encoded is an error; a message that the transport does not take is only
logged.
-/

namespace Proceedings

/-- A message and where it is sent. -/
structure Message where
  destination : String
  payload : Value

/-- A channel for messages: which attempts to send fail, how many were made, and what was
accepted. -/
structure Transport where
  fails : Nat → Bool
  attempts : Nat
  accepted : List Message

namespace Transport

/-- The channel before any message, with the attempts that are going to fail. -/
def ofList (failures : List Bool) : Transport :=
  ⟨fun n => failures[n]?.getD false, 0, []⟩

/-- Sends a message. Answers whether it was accepted. -/
def send (t : Transport) (m : Message) : Transport × Bool :=
  if t.fails t.attempts then ({ t with attempts := t.attempts + 1 }, false)
  else ({ t with attempts := t.attempts + 1, accepted := t.accepted ++ [m] }, true)

end Transport

namespace Broadcast

/-- Sends the live message of an event. Answers whether it was accepted. -/
def publish (destination : String) (e : Event) (t : Transport) : Outcome Transport Bool :=
  match Wire.encodeLive (.event e) with
  | .error f => .failed t f
  | .ok payload => match t.send ⟨destination, payload⟩ with
    | (t, true) => .done t true
    | (t, false) =>
      ⟨t, [⟨.warning, .ofString s!"Failed to send {e.kind.name} event to {destination}"⟩],
        .ok false⟩

/-- Sends a value that is an event. -/
def publishEvent (destination : String) (v : Value) (t : Transport) : Outcome Transport Bool :=
  match v with
  | .event e => publish destination e t
  | v => .failed t (.breach (.notEvent v))

def publishResult (destination : String) (participant result given : Value) (t : Transport)
    (c : Clock) : Outcome (Transport × Clock) Bool :=
  let (time, c) := c.stamp given
  match Event.ofKind .speech time participant result with
  | .ok e => (publish destination e t).within (·, c)
  | .error f => .failed (t, c) f

end Broadcast

end Proceedings
