import Proceedings.Text.Quoted

/-! # UTF-8

Files hold texts in UTF-8. Reading is strict and names the first fault with its place; writing
fails at a surrogate, which has no bytes.
-/

namespace Proceedings.Utf8

/-- What is wrong with a sequence of bytes. -/
inductive Flaw where
  | start
  | continuation
  | truncated

def Flaw.words : Flaw → String
  | .start => "invalid start byte"
  | .continuation => "invalid continuation byte"
  | .truncated => "unexpected end of data"

/-- Bytes that are no UTF-8: the first of them, where they start, their number and the flaw. -/
structure DecodeError where
  byte : UInt8
  position : Nat
  count : Nat
  flaw : Flaw

def DecodeError.message (e : DecodeError) : String :=
  let place :=
    if e.count = 1 then
      s!"byte 0x{String.ofList (hexDigits 2 e.byte.toNat)} in position {e.position}"
    else s!"bytes in position {e.position}-{e.position + e.count - 1}"
  s!"'utf-8' codec can't decode {place}: {e.flaw.words}"

/-- Code points that cannot be written: the first of them, where they start and their number. -/
structure EncodeError where
  point : CodePoint
  position : Nat
  count : Nat
  deriving DecidableEq

def EncodeError.words (e : EncodeError) : String :=
  if e.count = 1 then
    s!"character '{String.ofList e.point.numericEscape}' in position {e.position}"
  else s!"characters in position {e.position}-{e.position + e.count - 1}"

def EncodeError.message (e : EncodeError) : String :=
  s!"'utf-8' codec can't encode {e.words}: surrogates not allowed"

/-- The message for code points in a text that was to be written in ASCII. -/
def EncodeError.asciiMessage (e : EncodeError) : String :=
  s!"'ascii' codec can't encode {e.words}: ordinal not in range(128)"

def isContinuation (b : UInt8) : Bool :=
  0x80 ≤ b && b < 0xC0

/-- The six bits that a continuation byte adds. -/
def payload (b : UInt8) : Nat :=
  b.toNat % 0x40

/-- Whether the second byte fits the first: it continues, it starts no overlong sequence, no
surrogate, and nothing beyond the last code point. -/
def fits (b c : UInt8) : Bool :=
  isContinuation c && !(b == 0xE0 && c < 0xA0) && !(b == 0xED && 0xA0 ≤ c) &&
    !(b == 0xF0 && c < 0x90) && !(b == 0xF4 && 0x90 ≤ c)

/-- The character that a first byte and what follows it spell, and how many of the following bytes
belong to it; or the number of faulty bytes and their flaw. -/
def character (b : UInt8) (rest : List UInt8) : Except (Nat × Flaw) (Char × Nat) :=
  if b < 0x80 then .ok (Char.ofNat b.toNat, 0)
  else if b < 0xC2 || 0xF5 ≤ b then .error (1, .start)
  else match rest with
    | [] => .error (1, .truncated)
    | c :: rest =>
      if !fits b c then .error (1, .continuation)
      else if b < 0xE0 then .ok (Char.ofNat (b.toNat % 0x20 * 0x40 + payload c), 1)
      else match rest with
        | [] => .error (2, .truncated)
        | d :: rest =>
          if !isContinuation d then .error (2, .continuation)
          else if b < 0xF0 then
            .ok (Char.ofNat ((b.toNat % 0x10 * 0x40 + payload c) * 0x40 + payload d), 2)
          else match rest with
            | [] => .error (3, .truncated)
            | e :: _ =>
              if !isContinuation e then .error (3, .continuation)
              else .ok (Char.ofNat
                (((b.toNat % 0x08 * 0x40 + payload c) * 0x40 + payload d) * 0x40 + payload e), 3)

/-- Reads the bytes from a position on, after passing over `skip` of them. -/
def decodeFrom : Nat → Nat → List UInt8 → Except DecodeError Text
  | _, _, [] => .ok []
  | skip + 1, position, _ :: rest => decodeFrom skip (position + 1) rest
  | 0, position, b :: rest =>
    match character b rest with
    | .error (count, flaw) => .error ⟨b, position, count, flaw⟩
    | .ok (c, following) => (CodePoint.scalar c :: ·) <$> decodeFrom following (position + 1) rest

def decode (bytes : List UInt8) : Except DecodeError Text :=
  decodeFrom 0 0 bytes

/-- The bytes of a text that stands at a position of a longer one. -/
def encodeFrom : Nat → Text → Except EncodeError (List UInt8)
  | _, [] => .ok []
  | position, p :: rest =>
    match p with
    | .scalar c => (String.utf8EncodeChar c ++ ·) <$> encodeFrom (position + 1) rest
    | .surrogate _ =>
      .error ⟨p, position, 1 + (rest.takeWhile CodePoint.isSurrogate).length⟩

def encode (t : Text) : Except EncodeError (List UInt8) :=
  encodeFrom 0 t

/-- The first code points of a text that are not in ASCII. -/
def beyondAscii? (t : Text) : Option EncodeError :=
  let start := t.takeWhile (·.toNat < 0x80)
  match t.drop start.length with
  | [] => none
  | p :: rest => some ⟨p, start.length, 1 + (rest.takeWhile (0x80 ≤ ·.toNat)).length⟩

end Proceedings.Utf8
