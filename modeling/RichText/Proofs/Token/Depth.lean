import RichText.Proofs.Node.Grammar
import RichText.Proofs.Node.Height
import RichText.Token.Nodes

/-! # Depth of documents

A quote puts one level above the blocks in it, a list puts two. Where no more than so many of them
stand one in the other, the rest of the depth of a document is that of its running text. -/

namespace RichText

/-! ## Heights of running text -/

namespace Node

variable {α : Type}

/-- Whether below every block of text there are no more levels than so many. -/
def TextsWithin (limit : Nat) (n : Node α) : Prop :=
  ∀ m ∈ n.preorder, m.kind.isLeafBlock = true → m.height ≤ limit

instance (limit : Nat) (n : Node α) : Decidable (n.TextsWithin limit) :=
  inferInstanceAs (Decidable (∀ m ∈ n.preorder, _))

theorem TextsWithin.child {limit : Nat} {n m : Node α} (h : n.TextsWithin limit)
    (hm : m ∈ n.children) : m.TextsWithin limit := by
  cases n with
  | leaf mark l => cases hm
  | branch mark c ns => exact (forall_mem_preorder_branch.mp h).2 m hm

end Node

/-! ## Levels of blocks -/

namespace Token

/-- A token for a block in which no more quotes and lists stand one in the other than so many. What
stands in a list is taken for an item, whatever its type. -/
inductive NestsWithin : (limit : Nat) → Token → Prop
  | plain {limit : Nat} {t : Token} (hquote : BlockSort.ofType? t.type ≠ some .blockQuote)
      (hlist : BlockSort.ofType? t.type ≠ some .list) : NestsWithin limit t
  | quote {limit : Nat} {t : Token} (htype : BlockSort.ofType? t.type = some .blockQuote)
      (h : ∀ u ∈ t.children, u.NestsWithin limit) : NestsWithin (limit + 1) t
  | list {limit : Nat} {t : Token} (htype : BlockSort.ofType? t.type = some .list)
      (h : ∀ item ∈ t.children, ∀ u ∈ item.children, u.NestsWithin limit) :
      NestsWithin (limit + 1) t

variable {limit textLimit : Nat}

end Token

/-- In no text do more quotes and lists stand one in the other than so many. -/
def Tokenizer.NestsWithin [Tokenizer] (limit : Nat) : Prop :=
  ∀ strikethrough taskLists text, ∀ t ∈ tokens strikethrough taskLists text, t.NestsWithin limit

end RichText
