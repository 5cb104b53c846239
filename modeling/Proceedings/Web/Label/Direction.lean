import Proceedings.Text.Mark
import Proceedings.Text.Quoted

/-! # Directions in labels

A label of a host name that holds a letter or number written from right to left has one direction
only, is told by its first letter, and ends where that direction leaves no doubt. The table follows
version 14 of the Unicode character database, as far as labels can hold its code points.
-/

namespace Proceedings.Label

/-- The direction of a code point. -/
inductive Direction where
  | leftToRight
  | rightToLeft
  | europeanNumber
  | arabicNumber
  | neutral
  | mark
  deriving DecidableEq

/-- The directions of the code points that are neither marks nor written from left to right, and of
the marks that are. -/
def directions : List (Nat × Nat × Direction) :=
  [(0x2D, 0x2D, .neutral), (0x30, 0x39, .europeanNumber), (0xB7, 0xB7, .neutral),
   (0x2B9, 0x2BA, .neutral), (0x2C6, 0x2CF, .neutral), (0x2EC, 0x2EC, .neutral),
   (0x375, 0x375, .neutral), (0x5D0, 0x5EA, .rightToLeft), (0x5EF, 0x5F4, .rightToLeft),
   (0x620, 0x63F, .rightToLeft), (0x641, 0x64A, .rightToLeft), (0x660, 0x669, .arabicNumber),
   (0x66E, 0x66F, .rightToLeft), (0x671, 0x674, .rightToLeft), (0x679, 0x6D3, .rightToLeft),
   (0x6D5, 0x6D5, .rightToLeft), (0x6E5, 0x6E6, .rightToLeft), (0x6EE, 0x6EF, .rightToLeft),
   (0x6F0, 0x6F9, .europeanNumber), (0x6FA, 0x6FF, .rightToLeft), (0x710, 0x710, .rightToLeft),
   (0x712, 0x72F, .rightToLeft), (0x74D, 0x7A5, .rightToLeft), (0x7B1, 0x7B1, .rightToLeft),
   (0x7C0, 0x7EA, .rightToLeft), (0x7F4, 0x7F5, .rightToLeft), (0x800, 0x815, .rightToLeft),
   (0x81A, 0x81A, .rightToLeft), (0x824, 0x824, .rightToLeft), (0x828, 0x828, .rightToLeft),
   (0x840, 0x858, .rightToLeft), (0x860, 0x86A, .rightToLeft), (0x870, 0x887, .rightToLeft),
   (0x889, 0x88E, .rightToLeft), (0x8A0, 0x8C9, .rightToLeft), (0xCBF, 0xCBF, .leftToRight),
   (0xCC6, 0xCC6, .leftToRight), (0x200C, 0x200D, .neutral), (0x2E2F, 0x2E2F, .neutral),
   (0x30FB, 0x30FB, .neutral), (0xA67F, 0xA67F, .neutral), (0xA717, 0xA71F, .neutral),
   (0xA788, 0xA788, .neutral), (0xFE73, 0xFE73, .rightToLeft), (0x10800, 0x10805, .rightToLeft),
   (0x10808, 0x10808, .rightToLeft), (0x1080A, 0x10835, .rightToLeft),
   (0x10837, 0x10838, .rightToLeft), (0x1083C, 0x1083C, .rightToLeft),
   (0x1083F, 0x10855, .rightToLeft), (0x10860, 0x10876, .rightToLeft),
   (0x10880, 0x1089E, .rightToLeft), (0x108E0, 0x108F2, .rightToLeft),
   (0x108F4, 0x108F5, .rightToLeft), (0x10900, 0x10915, .rightToLeft),
   (0x10920, 0x10939, .rightToLeft), (0x10980, 0x109B7, .rightToLeft),
   (0x109BE, 0x109BF, .rightToLeft), (0x10A00, 0x10A00, .rightToLeft),
   (0x10A10, 0x10A13, .rightToLeft), (0x10A15, 0x10A17, .rightToLeft),
   (0x10A19, 0x10A35, .rightToLeft), (0x10A60, 0x10A7C, .rightToLeft),
   (0x10A80, 0x10A9C, .rightToLeft), (0x10AC0, 0x10AC7, .rightToLeft),
   (0x10AC9, 0x10AE4, .rightToLeft), (0x10B00, 0x10B35, .rightToLeft),
   (0x10B40, 0x10B55, .rightToLeft), (0x10B60, 0x10B72, .rightToLeft),
   (0x10B80, 0x10B91, .rightToLeft), (0x10C00, 0x10C48, .rightToLeft),
   (0x10CC0, 0x10CF2, .rightToLeft), (0x10D00, 0x10D23, .rightToLeft),
   (0x10D30, 0x10D39, .arabicNumber), (0x10E80, 0x10EA9, .rightToLeft),
   (0x10EB0, 0x10EB1, .rightToLeft), (0x10F00, 0x10F1C, .rightToLeft),
   (0x10F27, 0x10F27, .rightToLeft), (0x10F30, 0x10F45, .rightToLeft),
   (0x10F70, 0x10F81, .rightToLeft), (0x10FB0, 0x10FC4, .rightToLeft),
   (0x10FE0, 0x10FF6, .rightToLeft), (0x11A07, 0x11A08, .leftToRight),
   (0x11C3F, 0x11C3F, .leftToRight), (0x1E800, 0x1E8C4, .rightToLeft),
   (0x1E922, 0x1E943, .rightToLeft), (0x1E94B, 0x1E94B, .rightToLeft),
   (0x1E950, 0x1E959, .rightToLeft)]

def direction (p : CodePoint) : Direction :=
  match directions.find? fun (first, last, _) => first ≤ p.toNat && p.toNat ≤ last with
  | some (_, _, d) => d
  | none => if p.isNonspacingMark then .mark else .leftToRight

/-- What is wrong with the directions in a label. Positions count from 1. -/
inductive DirectionFault where
  | start (label : Text)
  | inRightToLeft (position : Nat)
  | inLeftToRight (position : Nat)
  | numbers
  | ending

def DirectionFault.message : DirectionFault → String
  | .start label => s!"First codepoint in label {label.quoted} must be directionality L, R or AL"
  | .inRightToLeft position =>
    s!"Invalid direction for codepoint at position {position} in a right-to-left label"
  | .inLeftToRight position =>
    s!"Invalid direction for codepoint at position {position} in a left-to-right label"
  | .numbers => "Can not mix numeral types in a right-to-left label"
  | .ending => "Label ends with illegal codepoint directionality"

/-- What makes a label one that is written from right to left in part. -/
def isRightward (d : Direction) : Bool :=
  d == .rightToLeft || d == .arabicNumber

/-- Looks at the directions of a label from right to left, from a position on; `seen` are the
kinds of numbers before. -/
def checkRightToLeft : Nat → List Direction → List Direction → Except DirectionFault Unit
  | _, _, [] => .ok ()
  | position, seen, d :: rest =>
    if d = .leftToRight then .error (.inRightToLeft position)
    else if d = .europeanNumber || d = .arabicNumber then
      if seen.any (· != d) then .error .numbers else checkRightToLeft (position + 1) (d :: seen) rest
    else checkRightToLeft (position + 1) seen rest

/-- Looks at the directions of a label from left to right, from a position on. -/
def checkLeftToRight : Nat → List Direction → Except DirectionFault Unit
  | _, [] => .ok ()
  | position, d :: rest =>
    if isRightward d then .error (.inLeftToRight position)
    else checkLeftToRight (position + 1) rest

/-- Whether the last code point that is no mark has one of the directions. -/
def endsIn (allowed : List Direction) (ds : List Direction) : Bool :=
  (ds.reverse.dropWhile (· == .mark)).head?.any allowed.contains

/-- Looks at the directions in a label. -/
def checkDirections (label : Text) : Except DirectionFault Unit := do
  let ds := label.map direction
  if !ds.any isRightward then return
  match ds.head? with
  | some .rightToLeft =>
    checkRightToLeft 1 [] ds
    if !endsIn [.rightToLeft, .europeanNumber, .arabicNumber] ds then .error .ending
  | some .leftToRight =>
    checkLeftToRight 1 ds
    if !endsIn [.leftToRight, .europeanNumber] ds then .error .ending
  | _ => .error (.start label)

end Proceedings.Label
