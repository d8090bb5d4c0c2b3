import RichText.Proofs.Document.Sources
import RichText.Proofs.Encoding.Faults

/-! # Sources without a text

Bytes are refused as a whole if they are no text in the encoding asked for, and the fault tells where
they stop being text. An encoding that there is not is noticed as soon as there is a byte to read. -/

namespace RichText

open Encoding (DecodeFault IsAscii IsUtf8 Pinpoints)

/-- An encoding by the bytes that are text in it and the codec that its faults name. -/
inductive Encoding.Takes : Encoding → (List UInt8 → Prop) → Encoding.Codec → Prop
  | utf8 : Takes .utf8 IsUtf8 .utf8
  | ascii : Takes .ascii IsAscii .ascii

namespace Encoding.Takes

variable {e : Encoding} {valid : List UInt8 → Prop} {codec : Codec} {bytes : List UInt8}

theorem valid_iff (h : e.Takes valid codec) : valid bytes ↔ ∃ s, e.decode bytes = .ok s := by
  cases h with
  | utf8 => exact isUtf8_iff_decode 0
  | ascii => exact exists_decodeAsciiFrom_iff.symm

theorem isMarked_eq (h : e.Takes valid codec) : e.isMarked = false := by
  cases h <;> rfl

theorem pinpoints (h : e.Takes valid codec) {f : DecodeFault} (hf : e.decode bytes = .error f) :
    Pinpoints valid codec bytes f := by
  cases h with
  | utf8 => exact pinpoints_decodeUtf8 hf
  | ascii => exact pinpoints_decodeAscii hf

end Encoding.Takes

/-- In ASCII a fault is found at the first byte from 128 up. -/
theorem Encoding.Pinpoints.le_byte {codec : Encoding.Codec} {bytes : List UInt8} {f : DecodeFault}
    (h : Pinpoints IsAscii codec bytes f) : 0x80 ≤ f.byte.toNat := by
  by_contra hlow
  obtain ⟨hlt, hbyte⟩ := List.getElem?_eq_some_iff.mp h.byte_eq
  have hlonger : IsAscii (bytes.take (f.start + 1)) := by
    rw [List.take_add_one, h.byte_eq]
    refine isAscii_append_iff.mpr ⟨h.valid_take, ?_⟩
    intro b hb
    obtain rfl := List.mem_singleton.mp hb
    exact Nat.not_le.mp hlow
  have hle := h.longest _ (List.take_prefix _ _) hlonger
  rw [List.length_take] at hle
  omega

variable {o : ReadingOptions} {source : Source} {content : List UInt8}

theorem Source.document_of_fault [Tokenizer] {fault : ReadFault}
    (h : source.content o.toDecodingOptions = .error fault) : source.document o = throw fault := by
  unfold document
  rw [h]
  rfl

theorem DecodingOptions.decode_of_error {o : DecodingOptions} {e : Encoding}
    (he : Encoding.ofName? o.encoding = some e) {f : DecodeFault}
    (hf : e.decode content = .error f) :
    o.decode content = .error (.undecodable o.encoding f) := by
  have hnonempty : content.isEmpty ≠ true := by
    intro hempty
    obtain rfl := List.isEmpty_iff.mp hempty
    have hnone : e.decode [] = .ok [] := by cases e <;> rfl
    rw [hnone] at hf
    cases hf
  unfold decode
  rw [if_neg (Encoding.nullChar_not_mem_of_ofName? he), if_neg hnonempty, he]
  dsimp only
  rw [hf]
  rfl

/-- A fault by its bytes, its position and its reason. -/
theorem ReadFault.message_undecodable (name : String) (f : DecodeFault) :
    (undecodable name f).message = "Could not decode input as " ++ name ++ ": '" ++ f.codec.name ++
      "' codec can't decode " ++
      (if f.stop = f.start + 1 then "byte 0x" ++ String.ofList (Text.hex 2 f.byte.toNat)
        else "bytes") ++
      " in position " ++ toString f.start ++
      (if f.stop = f.start + 1 then "" else "-" ++ toString (f.stop - 1)) ++
      ": " ++ f.reason.message := by
  have hquote : ": '" = ": " ++ "'" := rfl
  have hbytes : "bytes in position " = "bytes" ++ " in position " := rfl
  change "Could not decode input as " ++ name ++ ": " ++ f.message = _
  unfold DecodeFault.message
  rw [hquote, hbytes]
  by_cases hone : f.stop = f.start + 1
  · simp only [if_pos hone, String.append_assoc, String.append_empty]
  · simp only [if_neg hone, String.append_assoc]

/-- How a source of bytes is refused: nothing is parsed, and the fault tells in its wording where the
bytes stop being text. -/
structure Source.IsRefused [Tokenizer] (valid : List UInt8 → Prop) (codec : Encoding.Codec)
    (o : ReadingOptions) (source : Source) (content : List UInt8) (f : DecodeFault) : Prop where
  document_eq : source.document o = throw (.undecodable o.encoding f)
  stage?_eq : (ReadFault.undecodable o.encoding f).stage? = some .decoding
  message_eq : (ReadFault.undecodable o.encoding f).message =
    "Could not decode input as " ++ o.encoding ++ ": '" ++ codec.name ++ "' codec can't decode " ++
      (if f.stop = f.start + 1 then "byte 0x" ++ String.ofList (Text.hex 2 f.byte.toNat)
        else "bytes") ++
      " in position " ++ toString f.start ++
      (if f.stop = f.start + 1 then "" else "-" ++ toString (f.stop - 1)) ++
      ": " ++ f.reason.message
  pinpoints : Pinpoints valid codec content f

/-- Bytes that are valid UTF-8, or ASCII if that is asked for, are read as the text that they are.
All others are refused, and the fault tells the length of the longest valid part in front, a range
that begins there and lies within the bytes, and whether it was only their end that came too soon. In
ASCII the range begins at the first byte from 128 up. -/
theorem Source.document_of_takes [Tokenizer] (o : ReadingOptions) {e : Encoding}
    {valid : List UInt8 → Prop} {codec : Encoding.Codec} (htakes : e.Takes valid codec)
    (he : Encoding.ofName? o.encoding = some e) {source : Source} {content : List UInt8}
    (hbytes : source.bytes? = some content) :
    (valid content → ∃ s, e.encode? s = some content ∧
      source.document o = liftM (Document.ofText o s)) ∧
    (¬ valid content → ∃ f, source.IsRefused valid codec o content f) ∧
    ((∃ fault, (source.document o).result = .error fault) ↔ ¬ valid content) ∧
    (e = .ascii → ∀ f, source.IsRefused valid codec o content f →
      0x80 ≤ f.byte.toNat ∧ ∀ b ∈ content.take f.start, b.toNat < 0x80) := by
  have htext : valid content → ∃ s, e.encode? s = some content ∧
      source.document o = liftM (Document.ofText o s) := by
    intro hvalid
    obtain ⟨s, hs⟩ := htakes.valid_iff.mp hvalid
    have hread : source.content o.toDecodingOptions = .ok s := by
      rw [content_eq_decode hbytes, DecodingOptions.decode_eq_ok_iff he]
      exact hs
    exact ⟨s, (Encoding.decode_eq_ok_iff htakes.isMarked_eq).mp hs, document_of_content hread⟩
  have hrefused : ¬ valid content → ∃ f, source.IsRefused valid codec o content f := by
    intro hinvalid
    cases hdecode : e.decode content with
    | ok s => exact (hinvalid (htakes.valid_iff.mpr ⟨s, hdecode⟩)).elim
    | error f =>
        have hpinpoints := htakes.pinpoints hdecode
        have hread : source.content o.toDecodingOptions = .error (.undecodable o.encoding f) := by
          rw [content_eq_decode hbytes]
          exact DecodingOptions.decode_of_error he hdecode
        refine ⟨f, document_of_fault hread, rfl, ?_, hpinpoints⟩
        rw [ReadFault.message_undecodable, hpinpoints.codec_eq]
  refine ⟨htext, hrefused, ⟨?_, ?_⟩, ?ascii⟩
  · rintro ⟨fault, hfault⟩ hvalid
    obtain ⟨s, -, hs⟩ := htext hvalid
    rw [hs] at hfault
    cases hfault
  · intro hinvalid
    obtain ⟨f, hf⟩ := hrefused hinvalid
    rw [hf.document_eq]
    exact ⟨_, rfl⟩
  case ascii =>
    rintro rfl f hf
    cases htakes
    exact ⟨hf.pinpoints.le_byte, hf.pinpoints.valid_take⟩

/-- A file that ends within a character. The two bytes of it that there are make up the range. -/
theorem Source.document_of_takes_truncated :
    let o : ReadingOptions := { encoding := "UTF8" }
    let content : List UInt8 := [0x61, 0xe2, 0x82]
    let file := Source.path "a.md" (.file content)
    Encoding.ofName? o.encoding = some .utf8 ∧ file.bytes? = some content ∧ ¬ IsUtf8 content ∧
      file.IsRefused IsUtf8 .utf8 o content ⟨.utf8, 0xe2, 1, 3, .unexpectedEnd⟩ := by
  intro o content file
  have hname : Encoding.ofName? o.encoding = some .utf8 := by decide +kernel
  have hinvalid : ¬ IsUtf8 content := by
    rw [Encoding.isUtf8_iff_decode 0]
    rintro ⟨s, hs⟩
    cases hs
  obtain ⟨-, hrefused, -, -⟩ := document_of_takes o .utf8 hname
    (show file.bytes? = some content from rfl)
  obtain ⟨f, hf⟩ := hrefused hinvalid
  have hread : file.content o.toDecodingOptions =
      .error (.undecodable "UTF8" ⟨.utf8, 0xe2, 1, 3, .unexpectedEnd⟩) := by decide +kernel
  have hsame := congrArg Traced.result (hf.document_eq.symm.trans (document_of_fault hread))
  obtain ⟨-, rfl⟩ := ReadFault.undecodable.inj (Except.error.inj hsame)
  exact ⟨hname, rfl, hinvalid, hf⟩

/-! ## Encodings that there are not -/

theorem DecodingOptions.decode_of_unknown {o : DecodingOptions}
    (hunknown : Encoding.ofName? o.encoding = none) (content : List UInt8) :
    o.decode content =
      if Encoding.nullChar ∈ o.encoding.toList then .error .nullInName
      else if content = [] then .ok []
      else .error (.unknownEncoding o.encoding) := by
  unfold decode
  rw [hunknown]
  simp only [List.isEmpty_iff]

/-- An encoding that there is not is reported if there are bytes to be read and its name is one that
can be looked up. Of no bytes the document is that of no text, whatever the encoding; and a name with a
null character in it is a fault that belongs to no stage of reading. -/
theorem Source.document_of_unknown [Tokenizer] (o : ReadingOptions)
    (hunknown : Encoding.ofName? o.encoding = none) {source : Source} {content : List UInt8}
    (hbytes : source.bytes? = some content) :
    ((∃ fault, (source.document o).result = .error fault ∧ fault.stage? = some .decoding) ↔
      content ≠ [] ∧ Encoding.nullChar ∉ o.encoding.toList) ∧
    source.document o =
      if Encoding.nullChar ∈ o.encoding.toList then throw .nullInName
      else if content = [] then liftM (Document.ofText o [])
      else throw (.unknownEncoding o.encoding) := by
  have hread := (content_eq_decode hbytes).trans
    (DecodingOptions.decode_of_unknown (o := o.toDecodingOptions) hunknown content)
  by_cases hnull : Encoding.nullChar ∈ o.encoding.toList
  · rw [if_pos hnull] at hread ⊢
    have hdocument := document_of_fault hread
    refine ⟨iff_of_false ?_ fun h => h.2 hnull, hdocument⟩
    rintro ⟨fault, hfault, hstage⟩
    rw [hdocument] at hfault
    cases hfault
    cases hstage
  rw [if_neg hnull] at hread ⊢
  by_cases hempty : content = []
  · rw [if_pos hempty] at hread ⊢
    have hdocument := document_of_content hread
    refine ⟨iff_of_false ?_ fun h => h.1 hempty, hdocument⟩
    rintro ⟨fault, hfault, -⟩
    rw [hdocument] at hfault
    cases hfault
  · rw [if_neg hempty] at hread ⊢
    have hdocument := document_of_fault hread
    refine ⟨iff_of_true ⟨.unknownEncoding o.encoding, ?_, rfl⟩ ⟨hempty, hnull⟩, hdocument⟩
    rw [hdocument]
    rfl

/-- A single byte is enough for a misspelt name to be noticed. -/
theorem Source.document_of_unknown_byte :
    let o : ReadingOptions := { encoding := "utf-9" }
    Encoding.ofName? o.encoding = none ∧ (Source.byteStream [0x61]).bytes? = some [0x61] ∧
      ∃ fault, ((Source.byteStream [0x61]).document o).result = .error fault ∧
        fault.stage? = some .decoding := by
  intro o
  have hunknown : Encoding.ofName? o.encoding = none := by decide +kernel
  have hbytes : (Source.byteStream [0x61]).bytes? = some [0x61] := rfl
  have hreported := (document_of_unknown o hunknown hbytes).1
  exact ⟨hunknown, hbytes, hreported.mpr ⟨by decide, by decide +kernel⟩⟩

/-- Settings with a misspelt name are accepted, and an empty file is read with them as if nothing
were wrong. -/
theorem Source.result_document_emptyFile :
    let o : ReadingOptions := { encoding := "utf-9" }
    o.validate = .ok o ∧ Encoding.ofName? o.encoding = none ∧
      ((Source.path "a.md" (.file [])).document o).result.isOk = true := by
  refine ⟨rfl, ?_, ?_⟩ <;> decide +kernel

end RichText
