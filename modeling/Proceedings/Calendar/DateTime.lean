import Proceedings.Calendar.Date
import Proceedings.Text.Basic

/-! # Clock readings

A clock reading is a date and a time of day to the microsecond, with or without the offset of its
clock from UTC. With an offset it denotes an instant: the microseconds that its UTC reading counts
from the start of the year 1. An instant outside the years 1 to 9999 has no UTC reading.

The offset may be that of a zone in which clocks are set forward and back. Two readings in one zone
are compared as the clock shows them, whatever their instants; all others are compared by instant.
-/

namespace Proceedings

/-- The offset of a clock from UTC, less than a day either way. -/
structure Offset where
  micros : Int
  lower : -86400000000 < micros
  upper : micros < 86400000000
  deriving DecidableEq

/-- A zone in which clocks are set forward and back. Zones are told apart by number. -/
structure Zone where
  number : Nat
  shown : String
  deriving DecidableEq

/-- Where in a zone a reading was taken: on the second pass, after the clock was set back, or on the
first; and whether the offset of the zone is another one on the other pass. -/
structure Place where
  zone : Zone
  secondPass : Bool
  ambiguous : Bool
  deriving DecidableEq

/-- A reading of a clock: the microseconds from the start of the year 1 on that clock, its offset at
that reading, and the place if the offset is that of a zone. -/
structure DateTime where
  reading : Fin (3652059 * 86400000000)
  offset : Option Offset
  place : Option Place
  deriving DecidableEq

/-- The digits of a number, filled up with zeros on the left to a width. -/
def fixedDigits : Nat → Nat → List Char
  | 0, _ => []
  | width + 1, n => fixedDigits width (n / 10) ++ [Char.ofNat (0x30 + n % 10)]

namespace Offset

def utc : Offset := ⟨0, by decide, by decide⟩

/-- The offset of so many microseconds, if they are less than a day. -/
def ofMicros? (n : Int) : Option Offset :=
  if h : -86400000000 < n ∧ n < 86400000000 then some ⟨n, h.1, h.2⟩ else none

/-- The offset as a suffix: hours and minutes, and as much of the rest as is not zero. -/
def chars (o : Offset) : List Char :=
  let n := o.micros.natAbs
  let seconds := n / 1000000 % 60
  (if o.micros < 0 then '-' else '+') :: fixedDigits 2 (n / 3600000000) ++
    ':' :: fixedDigits 2 (n / 60000000 % 60) ++
    (if n % 60000000 = 0 then [] else ':' :: fixedDigits 2 seconds) ++
    (if n % 1000000 = 0 then [] else '.' :: fixedDigits 6 (n % 1000000))

end Offset

/-- The shown form of a span of time: its days, seconds and microseconds that are not zero, the
latter two never negative. -/
def quotedSpan (micros : Int) : String :=
  let days := micros.fdiv 86400000000
  let rest := micros.fmod 86400000000
  let parts := [("days", days), ("seconds", rest / 1000000), ("microseconds", rest % 1000000)]
  let shown := parts.filterMap fun (name, n) => if n = 0 then none else some s!"{name}={n}"
  let inner := if shown.isEmpty then "0" else String.intercalate ", " shown
  s!"datetime.timedelta({inner})"

namespace DateTime

variable (d : DateTime)

def date : Date := Date.ofDayNumber (d.reading.val / 86400000000)

def hour : Nat := d.reading.val / 3600000000 % 24

def minute : Nat := d.reading.val / 60000000 % 60

def second : Nat := d.reading.val / 1000000 % 60

def micro : Nat := d.reading.val % 1000000

/-- A reading whose clock has a known offset. -/
def isAware : Bool := d.offset.isSome

/-- The instant that a reading with an offset denotes. -/
def instant? : Option Int :=
  d.offset.map fun o => d.reading.val - o.micros

/-- The UTC reading of an instant, if it lies in the years 1 to 9999. -/
def ofInstant? (n : Int) : Option DateTime :=
  if h : 0 ≤ n ∧ n < 3652059 * 86400000000 then
    some ⟨⟨n.toNat, by omega⟩, some Offset.utc, none⟩
  else none

/-- The reading of a date and a time of day. -/
def ofFields? (date : Date) (hour minute second micro : Nat) (offset : Option Offset) :
    Option DateTime :=
  let n := (((date.dayNumber * 24 + hour) * 60 + minute) * 60 + second) * 1000000 + micro
  if h : n < 3652059 * 86400000000 then some ⟨⟨n, h⟩, offset, none⟩ else none

/-- Date and time of day, to the second, with a mark between them. -/
def secondsChars (mark : Char) : List Char :=
  fixedDigits 4 d.date.year ++ '-' :: fixedDigits 2 d.date.month ++ '-' ::
    fixedDigits 2 d.date.day ++ mark :: fixedDigits 2 d.hour ++ ':' ::
    fixedDigits 2 d.minute ++ ':' :: fixedDigits 2 d.second

/-- The canonical fraction: nothing on a whole second, three digits on a whole millisecond, and
else six. -/
def fractionChars : List Char :=
  if d.micro = 0 then []
  else if d.micro % 1000 = 0 then '.' :: fixedDigits 3 (d.micro / 1000)
  else '.' :: fixedDigits 6 d.micro

/-- The canonical text of a UTC reading. -/
def canonicalChars : List Char :=
  d.secondsChars 'T' ++ d.fractionChars ++ ['Z']

/-- The reading as it stands, with its offset: six digits of fraction or none. -/
def isoChars (mark : Char) : List Char :=
  d.secondsChars mark ++ (if d.micro = 0 then [] else '.' :: fixedDigits 6 d.micro) ++
    match d.offset with
    | none => []
    | some o => o.chars

/-- The shown form of an offset. -/
def quotedOffset (o : Offset) : String :=
  if o.micros = 0 then "datetime.timezone.utc"
  else s!"datetime.timezone({quotedSpan o.micros})"

/-- The shown form of a reading. Seconds and microseconds are left out if they are zero to the
end. -/
def quoted : String :=
  let tail := if d.micro ≠ 0 then [d.second, d.micro] else if d.second ≠ 0 then [d.second] else []
  let fields := [d.date.year, d.date.month, d.date.day, d.hour, d.minute] ++ tail
  let zone := match d.place, d.offset with
    | some p, _ => (if p.secondPass then ["fold=1"] else []) ++ ["tzinfo=" ++ p.zone.shown]
    | none, some o => ["tzinfo=" ++ quotedOffset o]
    | none, none => []
  let inner := String.intercalate ", " (fields.map Nat.repr ++ zone)
  s!"datetime.datetime({inner})"

/-- Whether two readings were taken in one zone. -/
def sharesZone (d e : DateTime) : Bool :=
  match d.place, e.place with
  | some p, some q => p.zone == q.zone
  | _, _ => false

/-- Whether the offset depends on the pass. -/
def isAmbiguous : Bool := d.place.any (·.ambiguous)

/-- Equality of readings: in one zone, of the readings; else of their instants, where one that is
ambiguous equals none; a reading with an offset never equals one without. -/
def equals (d e : DateTime) : Bool :=
  if d.sharesZone e then d.reading == e.reading
  else match d.instant?, e.instant? with
    | some m, some n => m == n && !d.isAmbiguous && !e.isAmbiguous
    | none, none => d.reading == e.reading
    | _, _ => false

/-- The order of readings: in one zone as the clock shows them, else by their instants. -/
def before (d e : DateTime) : Bool :=
  if d.sharesZone e then d.reading < e.reading
  else match d.instant?, e.instant? with
    | some m, some n => m < n
    | _, _ => d.reading < e.reading

end DateTime

end Proceedings
