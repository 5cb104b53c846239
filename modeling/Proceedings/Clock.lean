import Proceedings.Value.Basic

/-! # The clock of a session

A session has one clock. Whoever needs the time and was not given it reads the clock, and each
reading is handed out once.
-/

namespace Proceedings

/-- A clock: the readings it shows one after the other, and how many were taken. -/
structure Clock where
  readings : Nat → Value
  used : Nat

namespace Clock

variable (c : Clock)

/-- The clock that shows the given readings and then the last of them for ever. -/
def ofList (readings : List Value) : Clock :=
  ⟨fun n => (readings[min n (readings.length - 1)]?).getD .null, 0⟩

def now : Value := c.readings c.used

def tick : Clock := ⟨c.readings, c.used + 1⟩

/-- The time of a call: the one that it is given, and else the clock's. -/
def stamp (given : Value) : Value × Clock :=
  if given.isNull then (c.now, c.tick) else (given, c)

end Clock

end Proceedings
