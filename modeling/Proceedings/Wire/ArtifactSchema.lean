import Proceedings.Schema.Basic
import Proceedings.Text.Digit

/-! # The schema of artifacts

An artifact is an object with at most a room name, the times of start and end, the initial
participants and the events. Every part may be missing, but none may be empty. Speech events have
five keys more than others, which others may not have; keys beyond those are free in events, and
nowhere else.
-/

namespace Proceedings.Wire

/-- Whether a text fits a template, in which `0` stands for a decimal digit of any script and
any other character for itself. -/
def fits : List Char → Text → Bool
  | [], t => t.isEmpty
  | _ :: _, [] => false
  | c :: template, p :: t =>
    (if c = '0' then p.isDecimal else p == .scalar c) && fits template t

/-- The forms of a canonical time: whole seconds, milliseconds or microseconds. -/
def timestampTemplates : List String :=
  ["0000-00-00T00:00:00Z", "0000-00-00T00:00:00.000Z", "0000-00-00T00:00:00.000000Z"]

/-- A text that fits one of the forms; a line feed may follow. -/
def isTimestamp (t : Text) : Bool :=
  let fitsOne (t : Text) : Bool := timestampTemplates.any fun template => fits template.toList t
  fitsOne t || (t.getLast? == some (.scalar '\n') && fitsOne t.dropLast)

/-- The pattern of canonical times. -/
def timestampPattern : Pattern :=
  ⟨"^\\d\x7b4\x7d-\\d\x7b2\x7d-\\d\x7b2\x7dT\\d\x7b2\x7d:\\d\x7b2\x7d:\\d\x7b2\x7d" ++
    "(\\.\\d\x7b3\x7d|\\.\\d\x7b6\x7d)?Z$", isTimestamp⟩

def stringSchema : Schema := .of [.type .string]

def nonEmptySchema : Schema := .of [.type .string, .minLength]

def numberSchema : Schema := .of [.type .number]

def timestampSchema : Schema := .of [.type .string, .pattern timestampPattern]

def participantSchema : Schema :=
  .of [.type .object, .required ["name", "id"], .closed,
    .properties [("name", stringSchema), ("id", nonEmptySchema), ("email", nonEmptySchema),
      ("avatar_url", nonEmptySchema)]]

def alternativeSchema : Schema :=
  .of [.type .object, .required ["text", "confidence"], .closed,
    .properties [("text", stringSchema), ("confidence", numberSchema)]]

/-- The keys that only speech events have. -/
def speechKeys : List String :=
  ["transcript", "language", "is_interim", "message_id", "stability"]

def eventSchema : Schema :=
  .of [.type .object, .required ["event", "timestamp", "participant"],
    .properties [("event", .of [.enum (EventKind.all.map EventKind.name)]),
      ("timestamp", timestampSchema), ("participant", participantSchema),
      ("transcript", .of [.type .array, .items alternativeSchema]), ("language", stringSchema),
      ("is_interim", .of [.type .boolean]), ("message_id", stringSchema),
      ("stability", numberSchema)],
    .choice (.of [.properties [("event", .of [.const EventKind.speech.name])]])
      (.of [.required speechKeys])
      (.of [.not (.of [.anyOf (speechKeys.map fun key => .of [.required [key]])])])]

def artifactSchema : Schema :=
  .of [.type .object, .closed,
    .properties [("room_name", nonEmptySchema), ("start_time", timestampSchema),
      ("end_time", timestampSchema),
      ("initial_participants", .of [.type .array, .minItems, .items participantSchema]),
      ("events", .of [.type .array, .minItems, .items eventSchema])]]

end Proceedings.Wire
