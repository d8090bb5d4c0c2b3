import RichText.Encoding.Basic
import RichText.Proofs.Encoding.SingleByte
import RichText.Proofs.Encoding.Utf16
import RichText.Proofs.Encoding.Utf8

/-! # Reading what was written

In every encoding a text is read from the bytes that it is written as. Where no mark is put in front
of the bytes, it is read from no others. -/

namespace RichText.Encoding

variable {e : Encoding} {s : List Char} {bytes : List UInt8}

def name : Encoding → String
  | utf8 => "utf-8"
  | markedUtf8 => "utf-8-sig"
  | ascii => "ascii"
  | latin1 => "latin-1"
  | utf16 => "utf-16"
  | utf16Little => "utf-16-le"
  | utf16Big => "utf-16-be"

theorem ofName?_name (e : Encoding) : ofName? e.name = some e := by
  cases e <;> decide +kernel

theorem nullChar_not_mem_of_ofName? {name : String} (h : ofName? name = some e) :
    nullChar ∉ name.toList := by
  intro hnull
  unfold ofName? at h
  dsimp only at h
  rw [if_pos hnull] at h
  cases h

/-- Whether a mark is put in front of the bytes of a text. -/
def isMarked : Encoding → Bool
  | markedUtf8 | utf16 => true
  | _ => false

/-- Without a mark the bytes that are read as a text are those it is written as. -/
theorem decode_eq_ok_iff (he : e.isMarked = false) :
    e.decode bytes = .ok s ↔ e.encode? s = some bytes := by
  cases e with
  | markedUtf8 | utf16 => cases he
  | utf8 => exact decodeUtf8From_eq_ok_iff.trans Option.some_inj.symm
  | ascii => exact decodeAscii_eq_ok_iff
  | latin1 =>
      have hread : decode latin1 bytes = .ok s ↔ decodeLatin1 bytes = s :=
        ⟨Except.ok.inj, congrArg _⟩
      exact hread.trans decodeLatin1_eq_iff
  | utf16Little => exact (decodeUtf16From_eq_ok_iff .little).trans Option.some_inj.symm
  | utf16Big => exact (decodeUtf16From_eq_ok_iff .big).trans Option.some_inj.symm

/-- A mark that was put in front is left out again, also before a text that begins with one. -/
theorem decode_of_encode? (h : e.encode? s = some bytes) : e.decode bytes = .ok s := by
  by_cases he : e.isMarked = false
  · exact (decode_eq_ok_iff he).mpr h
  · cases e with
    | markedUtf8 =>
        obtain rfl := Option.some.inj h
        exact decodeUtf8From_eq_ok_iff.mpr rfl
    | utf16 =>
        obtain rfl := Option.some.inj h
        exact (decodeUtf16From_eq_ok_iff .little).mpr rfl
    | _ => exact absurd rfl he

end RichText.Encoding
