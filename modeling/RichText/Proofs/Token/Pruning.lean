import RichText.Proofs.Token.Grammar

/-! # Tokens that count

A token whose type means nothing where it stands may be deleted beforehand: the document is the
same. The tokens inside a list are exempt, since each of them becomes an item. -/

namespace RichText

namespace Token

/-! ## Tokens without a meaning -/

mutual

/-- A token of running text without those inside that mean nothing, if it means something itself. -/
def prunedInline : Token → List Token
  | mk type raw attributes children =>
    match InlineSort.ofType? type with
    | some _ => [mk type raw attributes (prunedInlines children)]
    | none => []

def prunedInlines : List Token → List Token
  | [] => []
  | t :: ts => prunedInline t ++ prunedInlines ts

end

mutual

/-- A token in the place of a block without those inside that mean nothing, if it means something
itself. What stands inside a token without contents is left alone. -/
def prunedBlock : Token → List Token
  | mk type raw attributes children =>
    match BlockSort.ofType? type with
    | some .heading | some .paragraph => [mk type raw attributes (prunedInlines children)]
    | some .blockQuote => [mk type raw attributes (prunedBlocks children)]
    | some .list => [mk type raw attributes (prunedItems children)]
    | some _ => [mk type raw attributes children]
    | none => []

def prunedBlocks : List Token → List Token
  | [] => []
  | t :: ts => prunedBlock t ++ prunedBlocks ts

/-- The items of a list, none of them left out, without the tokens inside that mean nothing. -/
def prunedItems : List Token → List Token
  | [] => []
  | mk type raw attributes children :: ts =>
    mk type raw attributes (prunedBlocks children) :: prunedItems ts

end

theorem inlines_append (ts us : List Token) :
    inlines (ts ++ us) = do return (← inlines ts) ++ (← inlines us) := by
  induction ts with
  | nil => simp [inlines]
  | cons t ts ih =>
      simp only [List.cons_append, inlines, ih, bind_assoc, pure_bind, List.append_assoc]

theorem blocks_append (ts us : List Token) :
    blocks (ts ++ us) = do return (← blocks ts) ++ (← blocks us) := by
  induction ts with
  | nil => simp [blocks]
  | cons t ts ih =>
      simp only [List.cons_append, blocks, ih, bind_assoc, pure_bind, List.append_assoc]

mutual

theorem inlines_prunedInline : ∀ t : Token,
    inlines (prunedInline t) = pure (inline t).value.toList
  | mk type raw attributes children => by
    have hchildren := inlines_prunedInlines children
    rw [prunedInline, inline]
    cases hsort : InlineSort.ofType? type with
    | none => rfl
    | some sort =>
        simp only [inlines, inline, hsort]
        cases sort with
        | text | codeSpan | lineBreak | softBreak | inlineHtml => rfl
        | strong | emphasis | strikethrough | link | image =>
            rw [hchildren]
            rfl

theorem inlines_prunedInlines : ∀ ts : List Token,
    inlines (prunedInlines ts) = pure (inlines ts).value
  | [] => rfl
  | t :: ts => by
    rw [prunedInlines, inlines_append, inlines_prunedInline t, inlines_prunedInlines ts]
    rfl

end

mutual

theorem blocks_prunedBlock : ∀ t : Token,
    blocks (prunedBlock t) = pure (block t).value.toList
  | mk type raw attributes children => by
    rw [prunedBlock, block]
    cases hsort : BlockSort.ofType? type with
    | none => rfl
    | some sort =>
        cases sort with
        | codeBlock | thematicBreak | htmlBlock | blankLine =>
            simp only [blocks, block, hsort]
            rfl
        | heading | paragraph =>
            simp only [blocks, block, hsort, inlines_prunedInlines children]
            rfl
        | blockQuote =>
            simp only [blocks, block, hsort, blocks_prunedBlocks children]
            rfl
        | list =>
            simp only [blocks, block, hsort, items_prunedItems children]
            rfl

theorem blocks_prunedBlocks : ∀ ts : List Token,
    blocks (prunedBlocks ts) = pure (blocks ts).value
  | [] => rfl
  | t :: ts => by
    rw [prunedBlocks, blocks_append, blocks_prunedBlock t, blocks_prunedBlocks ts]
    rfl

theorem items_prunedItems : ∀ ts : List Token,
    items (prunedItems ts) = pure (items ts).value
  | [] => rfl
  | mk type raw attributes children :: ts => by
    rw [prunedItems, items, blocks_prunedBlocks children, items_prunedItems ts]
    rfl

end

/-- Nothing is left to be skipped in pruned tokens, and the document is the same. -/
theorem document_prunedBlocks (ts : List Token) :
    document (prunedBlocks ts) = pure (document ts).value := by
  rw [document, blocks_prunedBlocks ts]
  rfl

end Token

end RichText
