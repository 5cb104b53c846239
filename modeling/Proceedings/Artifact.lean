import Proceedings.Value.Quoted
import Proceedings.Wire.Encode

/-! # Artifacts

An artifact is what is left of a session: a payload under a name. A formatter makes the payload; the
name is made of the time, a random identifier and the formatter's suffix, so that names sort by time
and cannot be guessed.
-/

namespace Proceedings

/-- Makes the payloads of transcripts, in one encoding. -/
structure Formatter where
  name : String
  suffix : String
  payload : Transcript → Except Failure Value

namespace Formatter

/-- The formatter of the JSON wire format. It refuses what does not conform to the schema. -/
def json (suffix : String) : Formatter :=
  ⟨"Transcript JSON", suffix, fun t => Wire.formatTranscript (.transcript t)⟩

/-- The formatters by their keys, sorted; all use one suffix. -/
def all (suffix : String) : List (String × Formatter) := [("json", json suffix)]

end Formatter

/-- The identifier made from a random number: all of it but six bits, which mark it as random. -/
def Uuid.ofRandom (n : Nat) : Uuid :=
  let bits (start width : Nat) : Nat := n >>> start % (1 <<< width)
  ⟨Fin.ofNat _ (bits 80 48 <<< 80 + 4 <<< 76 + bits 64 12 <<< 64 + 2 <<< 62 + bits 0 62)⟩

namespace Artifact

/-- The time in an artifact's name: the reading as it stands, to the second. Years before 1000 have
fewer than four digits. -/
def timeChars (d : DateTime) : List Char :=
  Nat.toDigits 10 d.date.year ++ '-' :: fixedDigits 2 d.date.month ++ '-' ::
    fixedDigits 2 d.date.day ++ '_' :: fixedDigits 2 d.hour ++ '-' ::
    fixedDigits 2 d.minute ++ '-' :: fixedDigits 2 d.second

/-- The name of an artifact up to its suffix. -/
def stem (d : DateTime) (identifier : String) : String :=
  String.ofList (timeChars d) ++ "_" ++ identifier

def name (d : DateTime) (u : Uuid) (suffix : String) : String :=
  stem d u.name ++ suffix

end Artifact

end Proceedings
