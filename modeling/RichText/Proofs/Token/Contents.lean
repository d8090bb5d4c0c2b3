import RichText.Proofs.Render.Contents
import RichText.Token.Nodes

/-! # Contents of tokens

What tokens hold of literal text is what the document made of them shows: nothing is lost, nothing
comes twice, and the order stays. -/

namespace RichText

namespace Token

mutual

/-- The literal texts of a token in running text, in order. -/
def inlineTexts : Token → List String
  | mk type raw _ children =>
    match type with
    | "text" | "codespan" => [raw]
    | "softbreak" => [" "]
    | "linebreak" => ["\n"]
    | "strong" | "emphasis" | "strikethrough" | "link" | "image" => inlineTextsAll children
    | _ => []

def inlineTextsAll : List Token → List String
  | [] => []
  | t :: ts => t.inlineTexts ++ inlineTextsAll ts

end

mutual

/-- The literal texts of a token in the place of a block, in order. -/
def blockTexts : Token → List String
  | mk type raw _ children =>
    match type with
    | "heading" | "paragraph" | "block_text" => inlineTextsAll children
    | "block_code" => [raw]
    | "block_quote" => blockTextsAll children
    | "list" => itemTextsAll children
    | _ => []

def blockTextsAll : List Token → List String
  | [] => []
  | t :: ts => t.blockTexts ++ blockTextsAll ts

/-- The literal texts of the items of a list; every token is one, whatever its type. -/
def itemTextsAll : List Token → List String
  | [] => []
  | mk _ _ _ children :: ts => blockTextsAll children ++ itemTextsAll ts

end

theorem inlineTexts_mk (type raw : String) (attributes : List (String × Value))
    (children : List Token) :
    (mk type raw attributes children).inlineTexts =
      match InlineSort.ofType? type with
      | some .text | some .codeSpan => [raw]
      | some .softBreak => [" "]
      | some .lineBreak => ["\n"]
      | some .inlineHtml | none => []
      | _ => inlineTextsAll children := by
  fun_cases InlineSort.ofType? type with
  | case11 => simp_all [inlineTexts]
  | _ => rfl

theorem blockTexts_mk (type raw : String) (attributes : List (String × Value))
    (children : List Token) :
    (mk type raw attributes children).blockTexts =
      match BlockSort.ofType? type with
      | some .heading | some .paragraph => inlineTextsAll children
      | some .codeBlock => [raw]
      | some .blockQuote => blockTextsAll children
      | some .list => itemTextsAll children
      | _ => [] := by
  fun_cases BlockSort.ofType? type with
  | case10 => simp_all [blockTexts]
  | _ => rfl

mutual

/-- The node of a token in running text has the literal texts of the token. -/
theorem contents_inline : ∀ t : Token,
    (inline t).value.toList.flatMap Node.contents = t.inlineTexts
  | mk type raw attributes children => by
    have hbranch {c : Container} (hc : c.kind.isList = false) :
        [Tree.branch c (inlines children).value].flatMap Node.contents =
          inlineTextsAll children := by
      rw [List.flatMap_singleton, ← contents_inlines children]
      exact Node.contentsAll_eq_flatMap hc _
    rw [inlineTexts_mk, inline]
    cases InlineSort.ofType? type with
    | none => rfl
    | some sort =>
        cases sort with
        | text | codeSpan | lineBreak | softBreak | inlineHtml => rfl
        | strong | emphasis | strikethrough | link | image => exact hbranch rfl

theorem contents_inlines : ∀ ts : List Token,
    (inlines ts).value.flatMap Node.contents = inlineTextsAll ts
  | [] => rfl
  | t :: ts => by
    rw [inlineTextsAll, ← contents_inline t, ← contents_inlines ts]
    exact List.flatMap_append

end

mutual

/-- The node of a token in the place of a block has the literal texts of the token. -/
theorem contents_block : ∀ t : Token,
    (block t).value.toList.flatMap Node.contents = t.blockTexts
  | mk type raw attributes children => by
    rw [blockTexts_mk, block]
    cases BlockSort.ofType? type with
    | none => rfl
    | some sort =>
        cases sort with
        | codeBlock | thematicBreak | htmlBlock | blankLine => rfl
        | heading | paragraph =>
            rw [← contents_inlines children]
            exact (List.flatMap_singleton ..).trans (Node.contentsAll_eq_flatMap rfl _)
        | blockQuote =>
            rw [← contents_blocks children]
            exact (List.flatMap_singleton ..).trans (Node.contentsAll_eq_flatMap rfl _)
        | list => exact (List.flatMap_singleton ..).trans (contents_items _ children)

theorem contents_blocks : ∀ ts : List Token,
    (blocks ts).value.flatMap Node.contents = blockTextsAll ts
  | [] => rfl
  | t :: ts => by
    rw [blockTextsAll, ← contents_block t, ← contents_blocks ts]
    exact List.flatMap_append

/-- No item is left out: whatever the tokens in a list are, their nodes are items. -/
theorem contents_items (c : Container) : ∀ ts : List Token,
    Node.contentsAll c (items ts).value = itemTextsAll ts
  | [] => rfl
  | mk _ _ attributes children :: ts => by
    have hitem : Node.contents (Tree.branch (.listItem (task attributes)) (blocks children).value) =
        blockTextsAll children :=
      (Node.contentsAll_eq_flatMap rfl _).trans (contents_blocks children)
    rw [itemTextsAll, ← hitem, ← contents_items c ts]
    exact if_pos fun _ => rfl

end

end Token

namespace Renderer

variable (r : Renderer)

/-- Tokens taken for a document and rendered show their literal texts, once each and in order, and
besides them nothing but markers and gaps: every run has the text of its piece, and the runs of
pieces with contents have the literal texts of the tokens. -/
theorem contents_document (ts : List Token) {out : StyledText}
    (h : (r.render (Token.document ts).value.placed).result = .ok out) :
    let pieces := (Token.document ts).value.piecesAt []
    out.runs.map (·.text) = pieces.map (·.origin.text r.options.bullet) ∧
      ((pieces.zip out.runs).filter (·.1.origin.content?.isSome)).map (·.2.text) =
        Token.blockTextsAll ts := by
  refine ⟨r.texts_render _ [] rfl h, ?_⟩
  rw [r.texts_contents_render rfl h, Node.contents_piecesAt_root, ← Token.contents_blocks ts]
  exact Node.contentsAll_eq_flatMap rfl _

end Renderer

/-- Tokens with a list of something that is no item, an image, breaks, markup, and some whose types
mean nothing where they stand. -/
def Token.assorted : List Token := [
  .mk "heading" "" [("level", .int 2)] [
    .mk "text" "a" [] [.mk "text" "inside" [] []], .mk "softbreak" "" [] [],
    .mk "image" "" [] [.mk "codespan" "b" [] [], .mk "paragraph" "" [] [.mk "text" "lost" [] []]]],
  .mk "list" "" [("ordered", .bool true)] [
    .mk "table" "" [] [.mk "block_text" "" [] [.mk "text" "c" [] []]],
    .mk "list_item" "" [] [.mk "block_code" "d" [] [], .mk "block_html" "<p>" [] []]],
  .mk "text" "lost" [] [],
  .mk "paragraph" "" [] [.mk "linebreak" "" [] [], .mk "inline_html" "<b>" [] []]]

theorem Renderer.contents_document_assorted :
    ∃ out,
      ((Renderer.mk {} .fixed).render (Token.document Token.assorted).value.placed).result =
        .ok out ∧
      out.runs.map (·.text) = ["a", " ", "b", "\n\n", "\t1.\t", "c", "\n", "\t2.\t", "d", "\n",
        "\n\n", "\n"] ∧
      ((((Token.document Token.assorted).value.piecesAt []).zip out.runs).filter
        (·.1.origin.content?.isSome)).map (·.2.text) = ["a", " ", "b", "c", "d", "\n"] := by
  obtain ⟨out, hout⟩ := Traced.exists_result_eq_ok
    (x := (Renderer.mk {} .fixed).render (Token.document Token.assorted).value.placed)
    (by decide +kernel)
  obtain ⟨htexts, hcontents⟩ := Renderer.contents_document _ Token.assorted hout
  refine ⟨out, hout, ?_, ?_⟩
  · rw [htexts]
    decide +kernel
  · rw [hcontents]
    decide +kernel

end RichText
