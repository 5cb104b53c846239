import Proceedings.Text.Composed
import Proceedings.Text.Lower
import Proceedings.Text.Part
import Proceedings.Web.Label.Direction
import Proceedings.Web.Label.Letter
import Proceedings.Web.Label.Neighbour
import Proceedings.Web.Punycode

/-! # Host names in all scripts

A host name is made of labels with points between them. A label with letters beyond ASCII is written
in ASCII behind a sign of four characters. Labels keep to the rules of 2008 for domain names: they
are composed, their hyphens cannot be taken for that sign, no mark comes first, each code point may
stand where it stands, and the directions of writing do not mix.
-/

namespace Proceedings

/-- What is wrong with a host name. Positions count from 1. -/
inductive HostFault where
  | longName
  | longLabel
  | noLabel
  | emptyLabel
  | notComposed
  | signHyphens
  | outerHyphen
  | leadingMark
  | joiner (p : CodePoint) (position : Nat) (label : Text)
  | neighbours (p : CodePoint) (position : Nat) (label : Text)
  | noLetter (p : CodePoint) (position : Nat) (label : Text)
  | direction (f : Label.DirectionFault)
  | bareSign
  | endingHyphen
  | notEncoded

/-- A code point by its number, with at least four digits. -/
def CodePoint.numberText (p : CodePoint) : String :=
  let digits := (Nat.toDigits 16 p.toNat).map Char.toUpper
  String.ofList ('U' :: '+' :: List.replicate (4 - digits.length) '0' ++ digits)

def HostFault.message : HostFault → String
  | .longName => "Domain too long"
  | .longLabel => "Label too long"
  | .noLabel => "Empty domain"
  | .emptyLabel => "Empty Label"
  | .notComposed => "Label must be in Normalization Form C"
  | .signHyphens => "Label has disallowed hyphens in 3rd and 4th position"
  | .outerHyphen => "Label must not start or end with a hyphen"
  | .leadingMark => "Label begins with an illegal combining character"
  | .joiner p position label =>
    s!"Unknown codepoint adjacent to joiner {p.numberText} at position {position} in " ++
      label.quoted
  | .neighbours p position label =>
    s!"Codepoint {p.numberText} not allowed at position {position} in {label.quoted}"
  | .noLetter p position label =>
    s!"Codepoint {p.numberText} at position {position} of {label.quoted} not allowed"
  | .direction f => f.message
  | .bareSign => "Malformed A-label, no Punycode eligible content found"
  | .endingHyphen => "A-label must not end with a hyphen"
  | .notEncoded => "Invalid A-label"

namespace Label

/-- The sign before a label that is written in ASCII for one that is not. -/
def sign : Text := Text.ofString "xn--"

/-- The hyphen. -/
def hyphen : CodePoint := .scalar '-'

/-- Looks at the code points of a label behind those that are given from their end. -/
def checkPoints (label : Text) : Text → Text → Except HostFault Unit
  | _, [] => .ok ()
  | before, p :: after =>
    if isLetter p then checkPoints label (p :: before) after
    else if isJoiner p then
      if mayJoin before p after then checkPoints label (p :: before) after
      else .error (.joiner p (before.length + 1) label)
    else if isContextual p then
      if mayStand before p after then checkPoints label (p :: before) after
      else .error (.neighbours p (before.length + 1) label)
    else .error (.noLetter p (before.length + 1) label)

/-- The greatest length of a host name that ends in a point. -/
def maxName : Nat := 254

/-- The greatest length of a label in ASCII. -/
def maxLabel : Nat := 63

/-- Looks at a label that is not written in ASCII for another. -/
def check (label : Text) : Except HostFault Unit := do
  if label.isEmpty then .error .emptyLabel
  if maxName < label.length then .error .longLabel
  if !label.isComposed then .error .notComposed
  if (label.drop 2).take 2 == [hyphen, hyphen] then .error .signHyphens
  if label.head? == some hyphen || label.getLast? == some hyphen then .error .outerHyphen
  if label.head?.any CodePoint.isMark then .error .leadingMark
  checkPoints label [] label
  (checkDirections label).mapError .direction

/-- The label that a label in ASCII stands for; capitals count as small letters. -/
def decode (label : Text) : Except HostFault Text := do
  let label := label.toLower
  if sign.isPrefixOf label then
    let form := label.drop sign.length
    if form.isEmpty then .error .bareSign
    if form.getLast? == some hyphen then .error .endingHyphen
    match Punycode.decode? (form.filterMap CodePoint.toChar?) with
    | none => .error .notEncoded
    | some label =>
      check label
      return label
  else
    check label
    return label

/-- A label in ASCII. -/
def encode (label : Text) : Except HostFault Text := do
  let encoded ←
    if label.all (·.toNat < 0x80) then do
      let _ ← decode label
      pure label
    else do
      check label
      pure (sign ++ (Punycode.encode label).map .scalar)
  if maxLabel < encoded.length then .error .longLabel
  return encoded

end Label

namespace HostName

/-- A point between labels. -/
def isPoint (p : CodePoint) : Bool :=
  [0x2E, 0x3002, 0xFF0E, 0xFF61].contains p.toNat

/-- The labels of a host name, and whether a point stands at its end. -/
def labels (name : Text) : Except HostFault (List Text × Bool) :=
  let parts := partsBetween isPoint name
  if Label.maxName < name.length then .error .longName
  else if parts == [[]] then .error .noLabel
  else if parts.getLast? == some [] then .ok (parts.dropLast, true)
  else .ok (parts, false)

def join (labels : List Text) (pointed : Bool) : Text :=
  [CodePoint.scalar '.'].intercalate (if pointed then labels ++ [[]] else labels)

def encode (name : Text) : Except HostFault Text := do
  let (parts, pointed) ← labels name
  let encoded := join (← parts.mapM Label.encode) pointed
  if (if pointed then Label.maxName else Label.maxName - 1) < encoded.length then
    .error .longName
  return encoded

def decode (name : Text) : Except HostFault Text := do
  let (parts, pointed) ← labels name
  return join (← parts.mapM Label.decode) pointed

end HostName

end Proceedings
