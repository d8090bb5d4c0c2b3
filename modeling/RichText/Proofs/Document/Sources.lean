import RichText.Document.Basic
import RichText.Proofs.Encoding.Basic
import RichText.Proofs.Traced

/-! # One text from many sources

A text may be handed over as it is, or as bytes that it is written as. The same document is read
either way; and where no mark is put in front, only the bytes that a text is written as are taken for
the text. -/

namespace RichText

def Source.bytes? : Source → Option (List UInt8)
  | .bytes content | .byteStream content | .path _ (.file content) => some content
  | _ => none

/-- A source that holds a text, as it is or as bytes in an encoding. -/
inductive Source.Holds (e : Encoding) (s : String) : Source → Prop
  | text : Holds e s (.text s)
  | textStream : Holds e s (.textStream s)
  | bytes {source : Source} {content : List UInt8} (hbytes : source.bytes? = some content)
      (hcontent : e.encode? s.toList = some content) : Holds e s source

variable {e : Encoding} {o : DecodingOptions}

/-- Bytes are read as the encoding says, also where there are none. -/
theorem DecodingOptions.decode_eq_ok_iff (he : Encoding.ofName? o.encoding = some e)
    {s : List Char} {bytes : List UInt8} : o.decode bytes = .ok s ↔ e.decode bytes = .ok s := by
  unfold decode
  rw [if_neg (Encoding.nullChar_not_mem_of_ofName? he)]
  split
  -- No bytes are read without a look at the encoding, but it would find the same text in them.
  · rename_i hempty
    obtain rfl := List.isEmpty_iff.mp hempty
    have hnone : e.decode [] = .ok [] := by cases e <;> rfl
    rw [hnone, Except.ok.injEq, Except.ok.injEq]
  · simp only [he]
    cases e.decode bytes <;> simp [Except.mapError]

theorem Source.content_eq_decode {source : Source} {content : List UInt8}
    (h : source.bytes? = some content) : source.content o = o.decode content := by
  cases source with
  | text s | textStream s => cases h
  | bytes content' | byteStream content' =>
      cases h
      rfl
  | path p entry =>
      cases entry with
      | file content' =>
          cases h
          rfl
      | directory | missing => cases h

theorem Source.content_of_holds (he : Encoding.ofName? o.encoding = some e) {s : String}
    {source : Source} (h : source.Holds e s) : source.content o = .ok s.toList := by
  cases h with
  | text | textStream => rfl
  | bytes hbytes hcontent =>
      rw [content_eq_decode hbytes, DecodingOptions.decode_eq_ok_iff he]
      exact Encoding.decode_of_encode? hcontent

/-- A source of bytes that is read as a text holds the bytes which that text is written as. -/
theorem Source.encode?_of_content (he : Encoding.ofName? o.encoding = some e)
    (hmark : e.isMarked = false) {source : Source} {content : List UInt8} {s : List Char}
    (hbytes : source.bytes? = some content) (hread : source.content o = .ok s) :
    e.encode? s = some content := by
  rw [content_eq_decode hbytes, DecodingOptions.decode_eq_ok_iff he] at hread
  exact (Encoding.decode_eq_ok_iff hmark).mp hread

/-- How bytes become text has no part in how a text becomes a document. -/
theorem Document.ofText_encoding [Tokenizer] (o : ReadingOptions) (name : String)
    (s : List Char) : Document.ofText { o with encoding := name } s = Document.ofText o s :=
  rfl

theorem Source.document_of_content [Tokenizer] {o : ReadingOptions} {source : Source} {s : List Char}
    (h : source.content o.toDecodingOptions = .ok s) :
    source.document o = liftM (Document.ofText o s) := by
  unfold document
  rw [h]
  rfl

/-- Every source that holds a text has the document of that text, whether the text is handed over as
it is or as the bytes of any encoding that can write it; handed over as it is, the encoding is not
looked at. Where no mark is put in front, bytes are read as a text only if they are those that the
text is written as, and so no two are read as the same. -/
theorem Source.document_of_holds [Tokenizer] (o : ReadingOptions) {e : Encoding}
    (he : Encoding.ofName? o.encoding = some e) :
    (∀ s (source : Source), source.Holds e s →
      source.document o = liftM (Document.ofText o s.toList)) ∧
    (∀ s name,
      (Source.text s).document { o with encoding := name } =
        liftM (Document.ofText o s.toList) ∧
      (Source.textStream s).document { o with encoding := name } =
        liftM (Document.ofText o s.toList)) ∧
    (e.isMarked = false → ∀ (source : Source) content s, source.bytes? = some content →
      source.content o.toDecodingOptions = .ok s → e.encode? s = some content) ∧
    (e.isMarked = false → ∀ (source source' : Source) content content' s,
      source.bytes? = some content → source'.bytes? = some content' →
      source.content o.toDecodingOptions = .ok s → source'.content o.toDecodingOptions = .ok s →
      content = content') := by
  refine ⟨?held, ?plain, ?written, ?once⟩
  case held =>
    intro s source h
    exact document_of_content (content_of_holds he h)
  case plain =>
    intro s name
    rw [← Document.ofText_encoding o name]
    exact ⟨document_of_content rfl, document_of_content rfl⟩
  case written =>
    intro hmark source content s hbytes hread
    exact encode?_of_content he hmark hbytes hread
  case once =>
    intro hmark source source' content content' s hbytes hbytes' hread hread'
    have hwritten := encode?_of_content he hmark hbytes hread
    have hwritten' := encode?_of_content he hmark hbytes' hread'
    exact Option.some.inj (hwritten.symm.trans hwritten')

theorem Source.document_of_holds_file :
    let o : ReadingOptions := { encoding := "UTF_16-LE" }
    let s := "\ufeff😀\r\n"
    let content : List UInt8 := [0xff, 0xfe, 0x3d, 0xd8, 0x00, 0xde, 0x0d, 0x00, 0x0a, 0x00]
    let file := Source.path "a.md" (.file content)
    Encoding.ofName? o.encoding = some .utf16Little ∧ file.Holds .utf16Little s ∧
      file.document o = liftM (Document.ofText o s.toList) ∧
      ∀ source : Source, ∀ content', source.bytes? = some content' →
        source.content o.toDecodingOptions = .ok s.toList → content' = content := by
  intro o s content file
  have hname : Encoding.ofName? o.encoding = some .utf16Little := by decide +kernel
  have hholds : file.Holds .utf16Little s := .bytes rfl (by decide +kernel)
  have hread : file.content o.toDecodingOptions = .ok s.toList := by decide +kernel
  obtain ⟨hheld, -, -, honce⟩ := document_of_holds o hname
  refine ⟨hname, hholds, hheld s file hholds, ?_⟩
  intro source content' hbytes hsame
  exact honce rfl source file content' content s.toList hbytes rfl hsame hread

end RichText
