import RichText.Encoding.Fault

/-!
The encoding of one to four bytes for each character. The first byte tells how many follow and, to
rule out characters written too long, surrogates and what is no character, in which range the second
lies.
-/
namespace RichText.Encoding

/-- The bytes from `first` to `last`. -/
structure ByteRange where
  first : UInt8
  last : UInt8
deriving DecidableEq

namespace ByteRange

def has (r : ByteRange) (b : UInt8) : Bool := r.first ≤ b && b ≤ r.last

/-- The bytes that continue a character. -/
def continuation : ByteRange := ⟨0x80, 0xbf⟩

end ByteRange

/-- The bits that a first byte brings, and the ranges of the bytes to follow; none for a byte that
begins no character. -/
def lead? (b : UInt8) : Option (Nat × List ByteRange) :=
  let n := b.toNat
  if n < 0x80 then some (n, [])
  else if n < 0xc2 then none
  else if n < 0xe0 then some (n - 0xc0, [.continuation])
  else if n < 0xf0 then
    let second : ByteRange :=
      if n = 0xe0 then ⟨0xa0, 0xbf⟩ else if n = 0xed then ⟨0x80, 0x9f⟩ else .continuation
    some (n - 0xe0, [second, .continuation])
  else if n < 0xf5 then
    let second : ByteRange :=
      if n = 0xf0 then ⟨0x90, 0xbf⟩ else if n = 0xf4 then ⟨0x80, 0x8f⟩ else .continuation
    some (n - 0xf0, [second, .continuation, .continuation])
  else none

/-- A character that has begun: its first byte and the position of it, how many bytes have been
read, their bits, and the ranges of those to follow. -/
structure Begun where
  byte : UInt8
  start : Nat
  count : Nat
  bits : Nat
  due : List ByteRange

/-- The text of bytes, the first of them at `position`, where a character may have begun. -/
def decodeUtf8From (position : Nat) : Option Begun → List UInt8 → Except DecodeFault (List Char)
  | none, [] => .ok []
  | some c, [] => .error ⟨.utf8, c.byte, c.start, c.start + c.count, .unexpectedEnd⟩
  | none, b :: rest =>
    match lead? b with
    | none => .error ⟨.utf8, b, position, position + 1, .invalidStart⟩
    | some (bits, []) => (Char.ofNat bits :: ·) <$> decodeUtf8From (position + 1) none rest
    | some (bits, due) => decodeUtf8From (position + 1) (some ⟨b, position, 1, bits, due⟩) rest
  | some c, b :: rest =>
    let bits := c.bits * 64 + b.toNat % 64
    match c.due with
    | [] => .error ⟨.utf8, c.byte, c.start, c.start + c.count, .invalidContinuation⟩
    | range :: due =>
      if range.has b then
        match due with
        | [] => (Char.ofNat bits :: ·) <$> decodeUtf8From (position + 1) none rest
        | due =>
          let c := { c with count := c.count + 1, bits, due }
          decodeUtf8From (position + 1) (some c) rest
      else .error ⟨.utf8, c.byte, c.start, c.start + c.count, .invalidContinuation⟩

def decodeUtf8 (bytes : List UInt8) : Except DecodeFault (List Char) :=
  decodeUtf8From 0 none bytes

def encodeUtf8Char (c : Char) : List UInt8 :=
  let n := c.toNat
  let continuation (shift : Nat) : UInt8 := (0x80 + n / shift % 64).toUInt8
  if n < 0x80 then [n.toUInt8]
  else if n < 0x800 then [(0xc0 + n / 64).toUInt8, continuation 1]
  else if n < 0x10000 then [(0xe0 + n / 4096).toUInt8, continuation 64, continuation 1]
  else [(0xf0 + n / 262144).toUInt8, continuation 4096, continuation 64, continuation 1]

def encodeUtf8 (s : List Char) : List UInt8 := s.flatMap encodeUtf8Char

def utf8Mark : List UInt8 := [0xef, 0xbb, 0xbf]

/-- The bytes behind the mark, if there is one. -/
def dropUtf8Mark : List UInt8 → List UInt8
  | 0xef :: 0xbb :: 0xbf :: rest => rest
  | bytes => bytes

end RichText.Encoding
