import RichText.Encoding.Fault

/-!
The encoding of one or two units of two bytes for each character. A pair of units, a high and a low
surrogate, stands for a character that one unit cannot hold.
-/
namespace RichText.Encoding

/-- Which byte of a unit comes first. -/
inductive ByteOrder
  | little
  | big
deriving DecidableEq

namespace ByteOrder

def codec : ByteOrder → Codec
  | little => .utf16Little
  | big => .utf16Big

def unit : ByteOrder → UInt8 → UInt8 → Nat
  | little, a, b => b.toNat * 256 + a.toNat
  | big, a, b => a.toNat * 256 + b.toNat

def bytes : ByteOrder → Nat → List UInt8
  | little, n => [(n % 256).toUInt8, (n / 256).toUInt8]
  | big, n => [(n / 256).toUInt8, (n % 256).toUInt8]

end ByteOrder

def isHighSurrogate (n : Nat) : Bool := 0xd800 ≤ n && n < 0xdc00

def isLowSurrogate (n : Nat) : Bool := 0xdc00 ≤ n && n < 0xe000

/-- The text of bytes, the first of them at `position`. -/
def decodeUtf16From (order : ByteOrder) (position : Nat) :
    List UInt8 → Except DecodeFault (List Char)
  | [] => .ok []
  | [a] => .error ⟨order.codec, a, position, position + 1, .truncated⟩
  | a :: b :: rest =>
    let first := order.unit a b
    if isLowSurrogate first then
      .error ⟨order.codec, a, position, position + 2, .illegalUnit⟩
    else if isHighSurrogate first then
      match rest with
      | [] => .error ⟨order.codec, a, position, position + 2, .unexpectedEnd⟩
      | [_] => .error ⟨order.codec, a, position, position + 3, .unexpectedEnd⟩
      | c :: d :: rest =>
        let second := order.unit c d
        if isLowSurrogate second then
          let n := 0x10000 + (first - 0xd800) * 0x400 + (second - 0xdc00)
          (Char.ofNat n :: ·) <$> decodeUtf16From order (position + 4) rest
        else .error ⟨order.codec, a, position, position + 2, .illegalSurrogate⟩
    else (Char.ofNat first :: ·) <$> decodeUtf16From order (position + 2) rest

def decodeUtf16 (order : ByteOrder) (bytes : List UInt8) : Except DecodeFault (List Char) :=
  decodeUtf16From order 0 bytes

/-- The text of bytes that may begin with a mark of their order. Without one the low byte comes
first. -/
def decodeMarkedUtf16 : List UInt8 → Except DecodeFault (List Char)
  | 0xff :: 0xfe :: rest => decodeUtf16From .little 2 rest
  | 0xfe :: 0xff :: rest => decodeUtf16From .big 2 rest
  | bytes => decodeUtf16 .little bytes

def encodeUtf16Char (order : ByteOrder) (c : Char) : List UInt8 :=
  let n := c.toNat
  if n < 0x10000 then order.bytes n
  else
    order.bytes (0xd800 + (n - 0x10000) / 0x400) ++ order.bytes (0xdc00 + (n - 0x10000) % 0x400)

def encodeUtf16 (order : ByteOrder) (s : List Char) : List UInt8 :=
  s.flatMap (encodeUtf16Char order)

/-- The mark of the order in which the low byte comes first. -/
def utf16Mark : List UInt8 := [0xff, 0xfe]

end RichText.Encoding
