import Proceedings.Calendar.DateTime
import Proceedings.Text.Quoted

/-! # Reading ISO 8601

A date and time of day is read from the calendar and week forms of a date, with or without
hyphens, any one code point between date and time, and a time with or without colons. A mark
(`+`, `-` or `Z`) starts the offset. Where the date ends follows from its first characters.

Text after a NUL does not count, and a time that is followed by an offset may have one ASCII
character too many before the mark.
-/

namespace Proceedings.Iso

/-- Why a text gives no reading. The offset is looked at before the date, and the date before the
time of day. -/
inductive ReadError where
  | malformed
  | offset (micros : Int)
  | year (n : Nat)
  | month
  | day
  | hour
  | minute
  | second

def ReadError.message (shown : String) : ReadError → String
  | .malformed => s!"Invalid isoformat string: {shown}"
  | .offset micros =>
    "offset must be a timedelta strictly between -timedelta(hours=24) and " ++
      s!"timedelta(hours=24), not {quotedSpan micros}."
  | .year n => s!"year {n} is out of range"
  | .month => "month must be in 1..12"
  | .day => "day is out of range for month"
  | .hour => "hour must be in 0..23"
  | .minute => "minute must be in 0..59"
  | .second => "second must be in 0..59"

/-- Reads a number of exactly `width` digits from the front of a text. -/
def digits : Nat → Nat → Text → Option (Nat × Text)
  | 0, value, t => some (value, t)
  | width + 1, value, p :: t =>
    if p.isAsciiDigit then digits width (value * 10 + p.digitValue) t else none
  | _ + 1, _, [] => none

/-- Whether a code point is the given character. -/
def isChar (c : Char) (p : CodePoint) : Bool :=
  p == .scalar c

/-- The place of the code point between date and time, judged by the form of the date. After
`YYYY-Www` a hyphen and a digit more could be a day of the week or the start of the time: two digits
are read as a time. Without hyphens the number of digits tells the two apart. -/
def separator? (t : Text) : Option Nat :=
  let has (i : Nat) (test : CodePoint → Bool) : Bool := t[i]?.any test
  if t.length = 7 then some 7
  else if has 4 (isChar '-') then
    if has 5 (isChar 'W') then
      if has 8 (isChar '-') then
        if t.length = 9 then none
        else if has 10 CodePoint.isAsciiDigit then some 8
        else some 10
      else some 8
    else some 10
  else if has 4 (isChar 'W') then
    let stop := 7 + ((t.drop 7).takeWhile CodePoint.isAsciiDigit).length
    if stop < 9 then some stop else if stop % 2 = 0 then some 7 else some 8
  else some 8

/-- Reads a hyphen if the date is written with hyphens, and nothing if not. -/
def hyphen? (hyphenated : Bool) (t : Text) : Option Text :=
  if hyphenated then
    match t with
    | p :: rest => if isChar '-' p then some rest else none
    | [] => none
  else some t

/-- Reads a date, which is all of the text before the separator. -/
def date? (t : Text) : Option Date := do
  let (year, rest) ← digits 4 0 t
  let hyphenated := rest.head?.any (isChar '-')
  let rest := if hyphenated then rest.tail else rest
  match rest with
  | .scalar 'W' :: rest =>
    let (week, rest) ← digits 2 0 rest
    if rest.isEmpty then Date.ofWeek? year week 1
    else
      let rest ← hyphen? hyphenated rest
      let (day, _) ← digits 1 0 rest
      Date.ofWeek? year week day
  | rest =>
    let (month, rest) ← digits 2 0 rest
    let rest ← hyphen? hyphenated rest
    let (day, _) ← digits 2 0 rest
    return ⟨year, month, day⟩

/-- A time of day as it is written, or the size of an offset; `extended` if the text goes on behind
it. -/
structure Clock where
  hour : Nat
  minute : Nat
  second : Nat
  micro : Nat
  extended : Bool

/-- Anything but the end of the text, which a NUL marks too. -/
def goesOn (t : Text) : Bool :=
  t.head?.any (!isChar '\x00' ·)

/-- Reads the fraction of a second: the first six digits count, further ones are passed over. -/
def fraction? (hour minute second : Nat) (t : Text) : Option Clock := do
  let width := min t.length 6
  let (value, rest) ← digits width 0 t
  return ⟨hour, minute, second, value * Nat.pow 10 (6 - width),
    goesOn (rest.dropWhile CodePoint.isAsciiDigit)⟩

/-- Reads what follows the hour, minute or second, of which `left` more may come, after the fields
read so far, latest first. Where the hour is followed by a colon the others need one too; a point
or comma starts the fraction. -/
def fields? : (left : Nat) → (colons : Bool) → List Nat → Text → Option Clock
  | left, colons, done, t => do
    let (value, rest) ← digits 2 0 t
    let done := value :: done
    let field (i : Nat) : Nat := done.reverse.getD i 0
    match rest with
    | [] => return ⟨field 0, field 1, field 2, 0, false⟩
    | p :: after =>
      let colons := if done.length = 1 then isChar ':' p else colons
      if after.isEmpty && p.toNat < 0x80 then
        return ⟨field 0, field 1, field 2, 0, !isChar '\x00' p⟩
      else
        let next ←
          if colons && isChar ':' p then some after
          else if isChar '.' p || isChar ',' p then some after
          else if colons then none
          else some rest
        let atFraction := isChar '.' p || isChar ',' p
        match left with
        | 0 => fraction? (field 0) (field 1) (field 2) next
        | left + 1 =>
          if atFraction then fraction? (field 0) (field 1) (field 2) next
          else fields? left colons done next

/-- Reads hours, minutes, seconds and fraction. -/
def clock? (t : Text) : Option Clock :=
  fields? 2 false [] t

/-- A mark that starts the offset. -/
def isZoneMark (p : CodePoint) : Bool :=
  isChar '+' p || isChar '-' p || isChar 'Z' p

/-- Reads an offset, in microseconds, from its mark on. The fraction of an offset that is less than
a second does not count. -/
def zone? (mark : CodePoint) (t : Text) : Option Int :=
  if isChar 'Z' mark then if goesOn t then none else some 0
  else do
    let c ← clock? t
    if c.extended then none
    else
      let seconds := (c.hour * 60 + c.minute) * 60 + c.second
      let size : Int := if seconds = 0 then 0 else seconds * 1000000 + c.micro
      return if isChar '-' mark then -size else size

/-- Reads a time of day with its offset, if it has one. -/
def time? (t : Text) : Option (Clock × Option Int) := do
  let c ← clock? (t.takeWhile (!isZoneMark ·))
  match t.dropWhile (!isZoneMark ·) with
  | [] => if c.extended then none else return (c, none)
  | mark :: zone => return (c, some (← zone? mark zone))

/-- A surrogate may stand between date and time, and nowhere else: it is read as a `T`. -/
def withoutSurrogate? (t : Text) : Option Text :=
  let place := [7, 8, 10].find? fun i => t[i]?.any CodePoint.isSurrogate
  let t := match place with
    | some i => t.set i (.scalar 'T')
    | none => t
  if t.any CodePoint.isSurrogate then none else some t

/-- The fields of date, time of day and offset, before their ranges are looked at. -/
def parts? (t : Text) : Option (Date × Clock × Option Int) := do
  if t.length < 7 then none
  let t ← withoutSurrogate? t
  let place ← separator? t
  let date ← date? (t.take place)
  match t.drop place with
  | [] => return (date, ⟨0, 0, 0, 0, false⟩, none)
  | _ :: rest =>
    let (clock, zone) ← time? rest
    return (date, clock, zone)

/-- The reading that a text spells. -/
def read (t : Text) : Except ReadError DateTime := do
  let some (date, clock, zone) := parts? t | .error .malformed
  let offset ← match zone with
    | none => .ok none
    | some micros => match Offset.ofMicros? micros with
      | some o => .ok (some o)
      | none => .error (.offset micros)
  if date.year = 0 || 9999 < date.year then .error (.year date.year)
  else if date.month = 0 || 12 < date.month then .error .month
  else if date.day = 0 || Date.daysInMonth date.year date.month < date.day then .error .day
  else if 24 ≤ clock.hour then .error .hour
  else if 60 ≤ clock.minute then .error .minute
  else if 60 ≤ clock.second then .error .second
  else match DateTime.ofFields? date clock.hour clock.minute clock.second clock.micro offset with
    | some d => .ok d
    | none => .error (.year date.year)

end Proceedings.Iso
