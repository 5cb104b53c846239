import Proceedings.Binary64.Shortest
import Proceedings.Text.Numeral
import Proceedings.Text.Quoted
import Proceedings.Value.Basic

/-! # Writing JSON

A payload is written with its keys in order and non-ASCII characters as they are. Artifacts are
indented by two blanks; what is sent over a network is compact and has no number without digits.
Readings, identifiers and records are not JSON: they are refused, and so are integers with more
digits than a reader would take.
-/

namespace Proceedings.Json

/-- Why a payload has no JSON text. -/
inductive WriteError where
  | type (name : String)
  | outOfRange
  | digits

def WriteError.message : WriteError → String
  | .type name => s!"Object of type {name} is not JSON serializable"
  | .outOfRange => "Out of range float values are not JSON compliant"
  | .digits => "Exceeds the limit (4300 digits) for integer string conversion; " ++
      "use sys.set_int_max_str_digits() to increase the limit"

structure Layout where
  /-- Whether each item starts on a line of its own, indented by two blanks a level. -/
  indented : Bool
  /-- Whether numbers without digits are written by name. -/
  special : Bool

/-- The layout of artifacts. -/
def artifactLayout : Layout := ⟨true, true⟩

/-- The layout of what is sent over a network. -/
def wireLayout : Layout := ⟨false, false⟩

/-- What stands before an item at a depth. -/
def Layout.lineStart (layout : Layout) (depth : Nat) : Text :=
  if layout.indented then .scalar '\n' :: List.replicate (2 * depth) (.scalar ' ') else []

/-- What stands between a key and its value. -/
def Layout.colon (layout : Layout) : Text :=
  if layout.indented then [.scalar ':', .scalar ' '] else [.scalar ':']

/-- Items on lines of their own between brackets; without items the brackets alone. -/
def Layout.enclose (layout : Layout) (depth : Nat) (opening closing : Char) (items : List Text) :
    Text :=
  if items.isEmpty then [.scalar opening, .scalar closing]
  else .scalar opening :: layout.lineStart (depth + 1) ++
    List.intercalate (.scalar ',' :: layout.lineStart (depth + 1)) items ++
    layout.lineStart depth ++ [.scalar closing]

/-- A code point as it stands in a JSON string. -/
def escaped (p : CodePoint) : Text :=
  match p with
  | .scalar '"' => Text.ofString "\\\""
  | .scalar '\\' => Text.ofString "\\\\"
  | .scalar '\x08' => Text.ofString "\\b"
  | .scalar '\x0c' => Text.ofString "\\f"
  | .scalar '\n' => Text.ofString "\\n"
  | .scalar '\r' => Text.ofString "\\r"
  | .scalar '\t' => Text.ofString "\\t"
  | p =>
    if p.toNat < 0x20 then ('\\' :: 'u' :: hexDigits 4 p.toNat).map CodePoint.scalar else [p]

def quoted (t : Text) : Text :=
  .scalar '"' :: t.flatMap escaped ++ [.scalar '"']

/-- Numbers without digits, in JSON texts. -/
def specialNames : Binary64.SpecialNames := ⟨"NaN", "Infinity"⟩

mutual

/-- The text of a value at a depth. -/
def write (layout : Layout) (depth : Nat) : Value → Except WriteError Text
  | .null => .ok (Text.ofString "null")
  | .bool b => .ok (Text.ofString (if b then "true" else "false"))
  | .int n =>
    if Binary64.digitCount n.natAbs ≤ Numeral.maxDigits then .ok (Text.ofInt n)
    else .error .digits
  | .float x =>
    if x.isFinite || layout.special then .ok ((x.chars specialNames).map CodePoint.scalar)
    else .error .outOfRange
  | .text t => .ok (quoted t)
  | .kind k => .ok (quoted k.text)
  | .list items => layout.enclose depth '[' ']' <$> writeItems layout (depth + 1) items
  | .tuple items => layout.enclose depth '[' ']' <$> writeItems layout (depth + 1) items
  | .object fields =>
    layout.enclose depth '\x7b' '\x7d' <$> writeFields layout (depth + 1) fields
  | .time _ => .error (.type "datetime")
  | .uuid _ => .error (.type "UUID")
  | .participant _ => .error (.type "Participant")
  | .alternative _ => .error (.type "TranscriptionAlternative")
  | .result _ => .error (.type "TranscriptionResult")
  | .event _ => .error (.type "TranscriptEvent")
  | .transcript _ => .error (.type "Transcript")

/-- The texts of values at a depth; the first that has none decides. -/
def writeItems (layout : Layout) (depth : Nat) : List Value → Except WriteError (List Text)
  | [] => .ok []
  | v :: rest => do
    let t ← write layout depth v
    let others ← writeItems layout depth rest
    return t :: others

/-- The texts of fields at a depth. -/
def writeFields (layout : Layout) (depth : Nat) :
    List (Text × Value) → Except WriteError (List Text)
  | [] => .ok []
  | (k, v) :: rest => do
    let t ← write layout depth v
    let others ← writeFields layout depth rest
    return (quoted k ++ layout.colon ++ t) :: others

end

def serialize (v : Value) : Except WriteError Text :=
  write artifactLayout 0 v

end Proceedings.Json
