import Proceedings.Text.Numeral
import Proceedings.Value.Basic

/-! # Reading JSON

JSON is read strictly, with three extensions: `NaN`, `Infinity` and `-Infinity` are numbers, a
surrogate may be escaped alone, and of fields with one key the last counts, in the place of the
first. A number with a fraction or an exponent is binary, any other is an integer. A fault is
reported by its place.
-/

namespace Proceedings.Json

/-- What is wrong with a JSON text. -/
inductive Fault where
  | byteOrderMark
  | value
  | extraData
  | comma
  | colon
  | name
  | unterminated
  | escape
  | unicodeEscape
  | control
  deriving DecidableEq

def Fault.words : Fault → String
  | .byteOrderMark => "Unexpected UTF-8 BOM (decode using utf-8-sig)"
  | .value => "Expecting value"
  | .extraData => "Extra data"
  | .comma => "Expecting ',' delimiter"
  | .colon => "Expecting ':' delimiter"
  | .name => "Expecting property name enclosed in double quotes"
  | .unterminated => "Unterminated string starting at"
  | .escape => "Invalid \\escape"
  | .unicodeEscape => "Invalid \\uXXXX escape"
  | .control => "Invalid control character at"

/-- Why a text was not read: a fault before the given rest of it, or an integer with too many
digits. -/
inductive Halt where
  | fault (f : Fault) (rest : Text)
  | digits (count : Nat)

/-- Why a text is no JSON. Lines and columns count from 1, positions from 0. -/
inductive ReadError where
  | malformed (fault : Fault) (line column position : Nat)
  | digits (count : Nat)

def ReadError.message : ReadError → String
  | .malformed fault line column position =>
    s!"{fault.words}: line {line} column {column} (char {position})"
  | .digits count =>
    "Exceeds the limit (4300 digits) for integer string conversion: " ++
      s!"value has {count} digits; use sys.set_int_max_str_digits() to increase the limit"

/-- A blank between the parts of a JSON text. -/
def isSpace (p : CodePoint) : Bool :=
  p == .scalar ' ' || p == .scalar '\t' || p == .scalar '\n' || p == .scalar '\r'

/-- The text from the first code point on that is no blank. -/
def skipSpace (t : Text) : Text :=
  t.dropWhile isSpace

/-- What stands behind a word, if the text starts with it. -/
def afterWord? (word : String) (t : Text) : Option Text :=
  let w := Text.ofString word
  if w.isPrefixOf t then some (t.drop w.length) else none

/-- The number that the first four code points spell in hexadecimal digits. -/
def hexFour? : Text → Option Nat
  | a :: b :: c :: d :: _ => do
    return (((← a.hexValue?) * 16 + (← b.hexValue?)) * 16 + (← c.hexValue?)) * 16 + (← d.hexValue?)
  | _ => none

/-- The code point of a one-letter escape. -/
def simpleEscape? : CodePoint → Option CodePoint
  | .scalar '"' => some (.scalar '"')
  | .scalar '\\' => some (.scalar '\\')
  | .scalar '/' => some (.scalar '/')
  | .scalar 'b' => some (.scalar '\x08')
  | .scalar 'f' => some (.scalar '\x0c')
  | .scalar 'n' => some (.scalar '\n')
  | .scalar 'r' => some (.scalar '\r')
  | .scalar 't' => some (.scalar '\t')
  | _ => none

/-- The second half of a surrogate pair, if its escape stands at the front of a text with something
behind it. -/
def lowSurrogate? (t : Text) : Except Halt (Option Nat) :=
  match t with
  | .scalar '\\' :: .scalar 'u' :: digits =>
    if t.length ≤ 6 then .ok none
    else match hexFour? digits with
      | none => .error (.fault .unicodeEscape t.tail)
      | some n => .ok (if 0xDC00 ≤ n && n < 0xE000 then some n else none)
  | _ => .ok none

/-- What stands in a string: its end, or a code point that so many further ones belong to. -/
inductive Piece where
  | close
  | point (p : CodePoint) (following : Nat)

/-- Reads the escape behind a backslash in a string that starts at `start`. A pair of surrogates is
one code point. -/
def escape (start : Text) (backslash : CodePoint) : Text → Except Halt Piece
  | [] => .error (.fault .unterminated start)
  | .scalar 'u' :: digits =>
    match hexFour? digits with
    | none => .error (.fault .unicodeEscape (.scalar 'u' :: digits))
    | some n =>
      if digits.length = 4 then .error (.fault .unicodeEscape (.scalar 'u' :: digits))
      else if 0xD800 ≤ n && n < 0xDC00 then
        match lowSurrogate? (digits.drop 4) with
        | .error e => .error e
        | .ok none => .ok (.point (.ofNat n) 5)
        | .ok (some low) =>
          .ok (.point (.ofNat (0x10000 + (n - 0xD800) * 0x400 + (low - 0xDC00))) 11)
      else .ok (.point (.ofNat n) 5)
  | p :: rest =>
    match simpleEscape? p with
    | some q => .ok (.point q 1)
    | none => .error (.fault .escape (backslash :: p :: rest))

/-- Reads what stands first in a string that starts at `start`. -/
def piece (start : Text) (p : CodePoint) (rest : Text) : Except Halt Piece :=
  if p = .scalar '"' then .ok .close
  else if p = .scalar '\\' then escape start p rest
  else if p.toNat < 0x20 then .error (.fault .control (p :: rest))
  else .ok (.point p 0)

/-- Reads a string up to its closing quote, after passing over `skip` code points. -/
def stringFrom (start : Text) : Nat → Text → Except Halt (Text × Text)
  | _, [] => .error (.fault .unterminated start)
  | skip + 1, _ :: rest => stringFrom start skip rest
  | 0, p :: rest =>
    match piece start p rest with
    | .error e => .error e
    | .ok .close => .ok ([], rest)
    | .ok (.point q following) =>
      match stringFrom start following rest with
      | .error e => .error e
      | .ok (t, rest) => .ok (q :: t, rest)

/-- The number that digits spell. -/
def natOfDigits (digits : Text) : Nat :=
  digits.foldl (fun n p => n * 10 + p.digitValue) 0

/-- The digits at the front of a text and what stands behind them. -/
def spanDigits (t : Text) : Text × Text :=
  (t.takeWhile CodePoint.isAsciiDigit, t.dropWhile CodePoint.isAsciiDigit)

/-- The fraction at the front of a text, by its digits: a point needs a digit behind it. -/
def fraction (t : Text) : Text × Text :=
  match t with
  | .scalar '.' :: rest =>
    let (digits, after) := spanDigits rest
    if digits.isEmpty then ([], t) else (digits, after)
  | _ => ([], t)

/-- The exponent at the front of a text, if its mark has a digit behind it. -/
def exponent (t : Text) : Option Int × Text :=
  match t with
  | p :: rest =>
    if p = .scalar 'e' || p = .scalar 'E' then
      let signed := rest.head?.any fun q => q == .scalar '+' || q == .scalar '-'
      let (digits, after) := spanDigits (if signed then rest.tail else rest)
      if digits.isEmpty then (none, t)
      else
        let size : Int := natOfDigits digits
        (some (if rest.head? = some (.scalar '-') then -size else size), after)
    else (none, t)
  | [] => (none, t)

/-- The digits before the point: a zero stands alone. -/
def wholeDigits (t : Text) : Text × Text :=
  match t with
  | .scalar '0' :: rest => ([.scalar '0'], rest)
  | _ => spanDigits t

/-- Reads a number. -/
def number (t : Text) : Except Halt (Value × Text) :=
  let negative := t.head? = some (.scalar '-')
  let (whole, rest) := wholeDigits (if negative then t.tail else t)
  if whole.isEmpty then .error (.fault .value t)
  else
    let (places, rest) := fraction rest
    let (power, rest) := exponent rest
    if places.isEmpty && power.isNone then
      if Numeral.maxDigits < whole.length then .error (.digits whole.length)
      else
        let size : Int := natOfDigits whole
        .ok (.int (if negative then -size else size), rest)
    else
      .ok (.float (.ofDecimal negative (natOfDigits (whole ++ places))
        (power.getD 0 - places.length)), rest)

/-- The values that are spelled by a word. -/
def words : List (String × Value) :=
  [("null", .null), ("true", .bool true), ("false", .bool false), ("NaN", .float .nan),
    ("Infinity", .float (.infinite false)), ("-Infinity", .float (.infinite true))]

/-- Reads a value that is no string, array or object. -/
def scalar (t : Text) : Except Halt (Value × Text) :=
  match words.findSome? fun (word, v) => (afterWord? word t).map (v, ·) with
  | some found => .ok found
  | none => number t

mutual

/-- Reads a value. The first argument bounds the depth of the calls. -/
def value : Nat → Text → Except Halt (Value × Text)
  | 0, t => .error (.fault .value t)
  | fuel + 1, t =>
    match t with
    | .scalar '"' :: rest => do
      let (s, rest) ← stringFrom t 0 rest
      return (.text s, rest)
    | .scalar '[' :: rest =>
      match skipSpace rest with
      | .scalar ']' :: rest => .ok (.list [], rest)
      | rest => do
        let (items, rest) ← elements fuel rest
        return (.list items, rest)
    | .scalar '\x7b' :: rest =>
      match skipSpace rest with
      | .scalar '\x7d' :: rest => .ok (.object [], rest)
      | rest => do
        let (fields, rest) ← members fuel [] rest
        return (.object fields, rest)
    | t => scalar t

/-- Reads the items of an array up to its closing bracket. -/
def elements : Nat → Text → Except Halt (List Value × Text)
  | 0, t => .error (.fault .value t)
  | fuel + 1, t => do
    let (v, rest) ← value fuel t
    match skipSpace rest with
    | .scalar ']' :: rest => return ([v], rest)
    | .scalar ',' :: rest =>
      let (items, rest) ← elements fuel (skipSpace rest)
      return (v :: items, rest)
    | rest => .error (.fault .comma rest)

/-- Reads the fields of an object up to its closing brace, after those read so far. -/
def members : Nat → Fields → Text → Except Halt (Fields × Text)
  | 0, _, t => .error (.fault .value t)
  | fuel + 1, fields, t =>
    match t with
    | .scalar '"' :: rest => do
      let (key, rest) ← stringFrom t 0 rest
      match skipSpace rest with
      | .scalar ':' :: rest =>
        let (v, rest) ← value fuel (skipSpace rest)
        let fields := fields.put key v
        match skipSpace rest with
        | .scalar '\x7d' :: rest => return (fields, rest)
        | .scalar ',' :: rest => members fuel fields (skipSpace rest)
        | rest => .error (.fault .comma rest)
      | rest => .error (.fault .colon rest)
    | t => .error (.fault .name t)

end

/-- Reads a whole text. -/
def document (t : Text) : Except Halt Value :=
  if t.head? = some (.scalar '\uFEFF') then .error (.fault .byteOrderMark t)
  else do
    let (v, rest) ← value (2 * t.length + 2) (skipSpace t)
    match skipSpace rest with
    | [] => return v
    | rest => .error (.fault .extraData rest)

/-- The place in a text of a given rest of it. -/
def Halt.locate (t : Text) : Halt → ReadError
  | .digits count => .digits count
  | .fault f rest =>
    let before := t.take (t.length - rest.length)
    let breaks := before.count (.scalar '\n')
    let column := (before.reverse.takeWhile (· != .scalar '\n')).length + 1
    .malformed f (breaks + 1) column before.length

/-- The value that a text spells. -/
def read (t : Text) : Except ReadError Value :=
  (document t).mapError (Halt.locate t)

end Proceedings.Json
