import RichText.Text.Quoted

/-!
Why bytes are no text.
-/
namespace RichText.Encoding

/-- A form of bytes, by the name that faults give to it. -/
inductive Codec
  | utf8
  | ascii
  | utf16Little
  | utf16Big
deriving DecidableEq

def Codec.name : Codec → String
  | utf8 => "utf-8"
  | ascii => "ascii"
  | utf16Little => "utf-16-le"
  | utf16Big => "utf-16-be"

/-- What is wrong with some bytes. -/
inductive Reason
  | invalidStart
  | invalidContinuation
  | unexpectedEnd
  | notAscii
  | truncated
  | illegalSurrogate
  | illegalUnit
deriving DecidableEq

def Reason.message : Reason → String
  | invalidStart => "invalid start byte"
  | invalidContinuation => "invalid continuation byte"
  | unexpectedEnd => "unexpected end of data"
  | notAscii => "ordinal not in range(128)"
  | truncated => "truncated data"
  | illegalSurrogate => "illegal UTF-16 surrogate"
  | illegalUnit => "illegal encoding"

/-- The first bytes that are no text: those from `start` to before `stop`, the first of them `byte`.
-/
structure DecodeFault where
  codec : Codec
  byte : UInt8
  start : Nat
  stop : Nat
  reason : Reason
deriving DecidableEq

def DecodeFault.message (f : DecodeFault) : String :=
  "'" ++ f.codec.name ++ "' codec can't decode " ++
    (if f.stop = f.start + 1 then
      "byte 0x" ++ String.ofList (Text.hex 2 f.byte.toNat) ++ " in position " ++ toString f.start
    else "bytes in position " ++ toString f.start ++ "-" ++ toString (f.stop - 1)) ++
    ": " ++ f.reason.message

end RichText.Encoding
