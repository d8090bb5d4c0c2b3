import RichText.Encoding.SingleByte
import RichText.Encoding.Utf16
import RichText.Encoding.Utf8
import RichText.Text.Cut

/-!
The encodings there are, and the names they go by.
-/
namespace RichText

inductive Encoding
  | utf8
  /-- With a mark in front, which may be missing when it is read. -/
  | markedUtf8
  | ascii
  | latin1
  /-- With a mark of the order of bytes in front. -/
  | utf16
  | utf16Little
  | utf16Big
deriving DecidableEq

namespace Encoding

def decode : Encoding → List UInt8 → Except DecodeFault (List Char)
  | utf8, bytes => decodeUtf8 bytes
  | markedUtf8, bytes => decodeUtf8 (dropUtf8Mark bytes)
  | ascii, bytes => decodeAscii bytes
  | latin1, bytes => .ok (decodeLatin1 bytes)
  | utf16, bytes => decodeMarkedUtf16 bytes
  | utf16Little, bytes => decodeUtf16 .little bytes
  | utf16Big, bytes => decodeUtf16 .big bytes

/-- The bytes of a text, if the encoding has all its characters. -/
def encode? : Encoding → List Char → Option (List UInt8)
  | utf8, s => some (encodeUtf8 s)
  | markedUtf8, s => some (utf8Mark ++ encodeUtf8 s)
  | ascii, s => encodeBelow 0x80 s
  | latin1, s => encodeBelow 0x100 s
  | utf16, s => some (utf16Mark ++ encodeUtf16 .little s)
  | utf16Little, s => some (encodeUtf16 .little s)
  | utf16Big, s => some (encodeUtf16 .big s)

def names : List (Encoding × List String) := [
  (utf8, ["utf_8", "u8", "utf", "utf8", "utf8_ucs2", "utf8_ucs4", "cp65001"]),
  (markedUtf8, ["utf_8_sig"]),
  (ascii, ["ascii", "646", "ansi_x3.4_1968", "ansi_x3_4_1968", "ansi_x3.4_1986", "cp367",
    "csascii", "ibm367", "iso646_us", "iso_646.irv_1991", "iso_ir_6", "us", "us_ascii"]),
  (latin1, ["latin_1", "8859", "cp819", "csisolatin1", "ibm819", "iso8859", "iso8859_1",
    "iso_8859_1", "iso_8859_1_1987", "iso_ir_100", "l1", "latin", "latin1"]),
  (utf16, ["utf_16", "u16", "utf16"]),
  (utf16Little, ["utf_16_le", "unicodelittleunmarked", "utf_16le"]),
  (utf16Big, ["utf_16_be", "unicodebigunmarked", "utf_16be"])]

def isNameChar (c : Char) : Bool := c.isAlphanum || c = '.'

/-- The plain form of a name: small letters, with one underscore between words. -/
def plainName (name : List Char) : List Char :=
  let words := (Text.splitWhere (!isNameChar ·) name).filter (!·.isEmpty)
  ['_'].intercalate (words.map (·.map Char.toLower))

/-- The character that may stand in no name. -/
def nullChar : Char := '\x00'

/-- The encoding of a name, in whatever case and with whatever marks between its words. A full stop
is one of these marks but for the names that encodings are listed under. Names of other encodings than
these seven are not told from names that no encoding has. -/
def ofName? (name : String) : Option Encoding :=
  let plain := plainName name.toList
  let loose := plain.map fun c => if c = '.' then '_' else c
  if nullChar ∈ name.toList then none
  else
    (names.find? fun (_, names) =>
      names.contains (String.ofList plain) ||
        (names.drop 1).contains (String.ofList loose)).map (·.1)

end Encoding

end RichText
