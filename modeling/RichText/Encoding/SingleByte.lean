import RichText.Encoding.Fault

/-!
Encodings of one byte for each character.
-/
namespace RichText.Encoding

/-- The text of bytes below 128, counted from `position`. -/
def decodeAsciiFrom (position : Nat) : List UInt8 → Except DecodeFault (List Char)
  | [] => .ok []
  | b :: rest =>
    if b < 0x80 then (Char.ofNat b.toNat :: ·) <$> decodeAsciiFrom (position + 1) rest
    else .error ⟨.ascii, b, position, position + 1, .notAscii⟩

def decodeAscii (bytes : List UInt8) : Except DecodeFault (List Char) := decodeAsciiFrom 0 bytes

/-- The text in which each byte is the character of its number. -/
def decodeLatin1 (bytes : List UInt8) : List Char := bytes.map fun b => Char.ofNat b.toNat

/-- The bytes of a text all of whose characters come before a limit. -/
def encodeBelow (limit : Nat) (s : List Char) : Option (List UInt8) :=
  s.mapM fun c => if c.toNat < limit then some c.toNat.toUInt8 else none

end RichText.Encoding
