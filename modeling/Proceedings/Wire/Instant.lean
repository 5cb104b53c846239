import Proceedings.Failure

/-! # Instants on the wire

An instant has one canonical text: its UTC reading in ISO 8601, with as many digits of fraction as
it takes. Any other text with an offset is read as the same instant, in UTC.
-/

namespace Proceedings.Wire

/-- The UTC reading of a reading with an offset. -/
def toUtc (d : DateTime) (unzoned : Breach) : Except Failure DateTime :=
  match d.instant? with
  | none => .error (.breach unzoned)
  | some n => match DateTime.ofInstant? n with
    | some u => .ok u
    | none => .error .dateRange

/-- The canonical text of a reading. -/
def formatReading (d : DateTime) : Except Failure Text := do
  let u ← toUtc d (.unzoned d)
  return u.canonicalChars.map CodePoint.scalar

def formatInstant : Value → Except Failure Text
  | .time d => formatReading d
  | v => .error (.breach (.notReading v))

/-- Whether the letter for UTC stands at the end of a text. -/
def endsInUtc (t : Text) : Bool :=
  t.getLast? = some (.scalar 'Z') || t.getLast? = some (.scalar 'z')

/-- A text with the letter for UTC at its end spelled out as an offset. -/
def spelledOut (t : Text) : Text :=
  if endsInUtc t then t.dropLast ++ Text.ofString "+00:00" else t

/-- The value that is read in place of one that spells a text. -/
def spelledValue (v : Value) (t : Text) : Value :=
  if endsInUtc t then .text (spelledOut t) else v

/-- The UTC reading that the text of a value spells. -/
def parseText (v : Value) (t : Text) : Except Failure DateTime :=
  match Iso.read (spelledOut t) with
  | .error e => .error (.breach (.badTimeText v (spelledValue v t) e))
  | .ok d => toUtc d (.noOffset v)

def parseInstant (v : Value) : Except Failure DateTime :=
  match v.text? with
  | some (p :: t) => parseText v (p :: t)
  | _ => .error (.breach (.notTimeText v))

end Proceedings.Wire
