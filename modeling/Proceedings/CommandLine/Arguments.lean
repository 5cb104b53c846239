import Proceedings.Text.Digit
import Proceedings.Text.Part
import Proceedings.Value.Quoted

/-! # Arguments

The words of a command line: one names the file of events, the others are options. A long option may
be cut short as long as it stays the only one that starts so, its word may follow an equals sign or
stand next to it, and behind two dashes no word is an option. The first fault counts. Words are what
the system hands over: bytes that are no UTF-8 come in as surrogates.
-/

namespace Proceedings.CommandLine

/-- The options. -/
inductive OptionKind where
  | help
  | room
  | participants
  | outputDirectory
  | webhook
  | format
  deriving DecidableEq

namespace OptionKind

def spellings : List (String × OptionKind) :=
  [("-h", .help), ("--help", .help), ("--room", .room), ("--participants", .participants),
    ("--output-dir", .outputDirectory), ("--webhook", .webhook), ("--format", .format)]

def name (o : OptionKind) : String :=
  String.intercalate "/" ((spellings.filter (·.2 == o)).map (·.1))

def ofSpelling? (spelling : Text) : Option OptionKind :=
  (spellings.find? (.ofString ·.1 == spelling)).map (·.2)

end OptionKind

/-- Two dashes. -/
def dashes : Text := [.scalar '-', .scalar '-']

/-- What becomes of two dashes that are attached to an option: they are its word, or, in early
releases of the parser, they are dropped and leave an empty list. -/
inductive DashRule where
  | kept
  | dropped
  deriving DecidableEq

def DashRule.drops (rule : DashRule) (w : Text) : Bool :=
  rule == .dropped && w == dashes

/-- What is wrong with a command line. -/
inductive UsageError where
  | ambiguous (word : Text) (candidates : List String)
  | noWord (o : OptionKind)
  | strayWord (o : OptionKind) (word : Text)
  | noSuchFormat (word : Text) (formats : List String)
  | noEventsFile
  | unrecognized (words : List Text)

def UsageError.message : UsageError → Text
  | .ambiguous word candidates =>
    let shown := String.intercalate ", " candidates
    .ofString "ambiguous option: " ++ word ++ .ofString s!" could match {shown}"
  | .noWord o => .ofString s!"argument {o.name}: expected one argument"
  | .strayWord o word =>
    .ofString s!"argument {o.name}: ignored explicit argument {word.quoted}"
  | .noSuchFormat word formats =>
    let shown := String.intercalate ", " (formats.map quoted)
    .ofString <|
      s!"argument {OptionKind.format.name}: invalid choice: {word.quoted} (choose from {shown})"
  | .noEventsFile => .ofString "the following arguments are required: events_file"
  | .unrecognized words =>
    .ofString "unrecognized arguments: " ++ List.intercalate [.scalar ' '] words

/-- A word of the command line by what it is there for. -/
inductive Token where
  | word (w : Text)
  | option (o : OptionKind) (attached : Option Text)
  | unknown (w : Text)
  | separator

/-- Digits of any script, and maybe a point before or among them. -/
def isDecimal (w : Text) : Bool :=
  let whole := w.takeWhile CodePoint.isDecimal
  match w.drop whole.length with
  | [] => !whole.isEmpty
  | .scalar '.' :: fraction => !fraction.isEmpty && fraction.all CodePoint.isDecimal
  | _ => false

/-- A negative number, which is no option: a decimal behind a dash. A line feed may end it. -/
def isNegativeNumber : Text → Bool
  | .scalar '-' :: rest =>
    isDecimal (if rest.getLast? = some (.scalar '\n') then rest.dropLast else rest)
  | _ => false

/-- The spellings that a word with two dashes is the start of. -/
def completions (start : Text) : List (String × OptionKind) :=
  OptionKind.spellings.filter fun s => start.isPrefixOf (Text.ofString s.1)

/-- A word that is no option of this command line. It may still look like one. -/
def Token.ofStranger (w : Text) : Token :=
  if isNegativeNumber w || w.contains (.scalar ' ') then .word w else .unknown w

/-- The option for help with letters attached: more calls for help, or else a stray word. -/
def Token.ofHelp (letters : Text) : Token :=
  let rest := letters.dropWhile (· == .scalar 'h')
  if rest.isEmpty && !letters.isEmpty then .option .help none else .option .help (some rest)

/-- What a word with two dashes is there for. -/
def Token.ofLong (w : Text) : Except UsageError Token :=
  let (start, attached) := splitAtMark (.scalar '=') w
  match OptionKind.ofSpelling? start with
  | some o => .ok (.option o attached)
  | none => match completions start with
    | [] => .ok (.ofStranger w)
    | [(_, o)] => .ok (.option o attached)
    | several => .error (.ambiguous w (several.map (·.1)))

/-- What a word is there for, unless two dashes stand before it. -/
def Token.ofWord (w : Text) : Except UsageError Token :=
  match w with
  | [.scalar '-', .scalar 'h'] => .ok (.option .help none)
  | .scalar '-' :: .scalar 'h' :: .scalar '=' :: letters => .ok (.ofHelp letters)
  | .scalar '-' :: .scalar 'h' :: letters => .ok (.ofHelp letters)
  | .scalar '-' :: .scalar '-' :: _ => Token.ofLong w
  | .scalar '-' :: _ :: _ => .ok (.ofStranger w)
  | _ => .ok (.word w)

/-- What the words of a command line are there for. -/
def Token.ofWords : List Text → Except UsageError (List Token)
  | [] => .ok []
  | w :: rest =>
    if w = dashes then .ok (.separator :: rest.map Token.word)
    else do
      let t ← Token.ofWord w
      return t :: (← Token.ofWords rest)

/-- What a command line asks for. The word of an option is null if the option is not there. -/
structure Invocation where
  eventsFile : Text
  room : Value
  participants : Value
  outputDirectory : Value
  webhook : Bool
  format : Value

structure Arguments where
  eventsFile : Option Text
  room : Value
  participants : Value
  outputDirectory : Value
  webhook : Bool
  format : Value
  extras : List Text

namespace Arguments

def empty : Arguments := ⟨none, .null, .null, .null, false, .null, []⟩

def addExtra (a : Arguments) (w : Text) : Arguments :=
  { a with extras := a.extras ++ [w] }

def setWord (rule : DashRule) (formats : List String) (o : OptionKind) (w : Text)
    (a : Arguments) : Except UsageError Arguments :=
  let v := if rule.drops w then Value.list [] else .text w
  match o with
  | .room => .ok { a with room := v }
  | .participants => .ok { a with participants := v }
  | .outputDirectory => .ok { a with outputDirectory := v }
  | .format =>
    -- where the word was dropped there is none to be checked
    if rule.drops w || formats.any (.ofString · == w) then .ok { a with format := v }
    else .error (.noSuchFormat w formats)
  | _ => .error (.strayWord o w)

end Arguments

/-- What comes of a command line. -/
inductive Reading where
  | help
  | arguments (a : Arguments)

/-- Reads tokens one after the other. -/
def readTokens (rule : DashRule) (formats : List String) :
    List Token → Arguments → Except UsageError Reading
  | [], a => .ok (.arguments a)
  | .word w :: .separator :: rest, a =>
    match a.eventsFile with
    | none => readTokens rule formats rest { a with eventsFile := some w }
    | some _ => readTokens rule formats (.separator :: rest) (a.addExtra w)
  | .word w :: rest, a =>
    match a.eventsFile with
    | none => readTokens rule formats rest { a with eventsFile := some w }
    | some _ => readTokens rule formats rest (a.addExtra w)
  | .separator :: .word w :: rest, a =>
    match a.eventsFile with
    | none => readTokens rule formats rest { a with eventsFile := some w }
    | some _ => readTokens rule formats (.word w :: rest) (a.addExtra dashes)
  | .separator :: rest, a => readTokens rule formats rest (a.addExtra dashes)
  | .unknown w :: rest, a => readTokens rule formats rest (a.addExtra w)
  | .option .help none :: _, _ => .ok .help
  | .option .help (some w) :: _, _ => .error (.strayWord .help w)
  | .option .webhook none :: rest, a => readTokens rule formats rest { a with webhook := true }
  | .option .webhook (some w) :: _, _ => .error (.strayWord .webhook w)
  | .option o (some w) :: rest, a => do
    readTokens rule formats rest (← a.setWord rule formats o w)
  | .option o none :: .word w :: rest, a => do
    readTokens rule formats rest (← a.setWord rule formats o w)
  | .option o none :: _, _ => .error (.noWord o)
termination_by tokens => tokens.length

def orDefault (v : Value) (other : String) : Value :=
  if v.isNull then .str other else v

/-- What arguments ask for, if the file of events is among them and nothing is left over. -/
def Arguments.invocation (outputDirectory format : String) (a : Arguments) :
    Except UsageError Invocation :=
  match a.eventsFile, a.extras with
  | none, _ => .error .noEventsFile
  | some _, w :: rest => .error (.unrecognized (w :: rest))
  | some eventsFile, [] =>
    .ok ⟨eventsFile, a.room, a.participants, orDefault a.outputDirectory outputDirectory, a.webhook,
      orDefault a.format format⟩

/-- Reads a command line; none for a call for help. -/
def parse (rule : DashRule) (outputDirectory : String) (formats : List String)
    (words : List Text) : Except UsageError (Option Invocation) := do
  match ← readTokens rule formats (← Token.ofWords words) .empty with
  | .help => return none
  | .arguments a => return some (← a.invocation outputDirectory "json")

end Proceedings.CommandLine
