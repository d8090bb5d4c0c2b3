import RichText.Node.Walk
import RichText.Proofs.Node.Induction

/-! # The grammar of documents

Documents, quotes and items hold blocks, lists hold items, and everything else that has children
holds running text. -/

namespace RichText

namespace Kind

/-- Blocks. Items are none: they stand in lists only. -/
def isBlock : Kind → Bool
  | heading | paragraph | codeBlock | blockQuote | unorderedList | orderedList | thematicBreak
  | htmlBlock => true
  | _ => false

/-- What running text is made of. -/
def isInline : Kind → Bool
  | text | inlineCode | inlineHtml | lineBreak | softBreak | emphasis | strong | strikethrough
  | link | image => true
  | _ => false

/-- The blocks that hold the text of a document. -/
def isLeafBlock : Kind → Bool
  | paragraph | heading | codeBlock => true
  | _ => false

/-- Which kinds of nodes may stand right below a node of some kind. -/
def admits : (parent child : Kind) → Bool
  | document, child | blockQuote, child | listItem, child => child.isBlock
  | unorderedList, child | orderedList, child => child = listItem
  | paragraph, child | heading, child | emphasis, child | strong, child | strikethrough, child
  | link, child | image, child => child.isInline
  | _, _ => false

/-- Whatever stands in a block of text, or in running text, is running text. -/
theorem isInline_of_admits {parent child : Kind}
    (hparent : parent.isInline = true ∨ parent.isLeafBlock = true)
    (h : parent.admits child = true) : child.isInline = true := by
  cases parent <;> simp_all [admits, isInline, isLeafBlock]

/-- Whatever stands below an outer node is a block or an item. -/
theorem isBlock_or_eq_of_admits {parent child : Kind}
    (hparent : parent = .document ∨ parent.isBlock = true ∨ parent = .listItem)
    (hleaf : ¬ parent.isLeafBlock = true) (h : parent.admits child = true) :
    child.isBlock = true ∨ child = .listItem := by
  cases parent <;> simp_all [admits, isBlock, isLeafBlock]

theorem not_isLeafBlock_of_isInline {kind : Kind} (h : kind.isInline = true) :
    kind.isLeafBlock = false := by
  cases kind <;> simp_all [isInline, isLeafBlock]

end Kind

namespace Node

variable {α : Type}

theorem self_mem_preorder (n : Node α) : n ∈ n.preorder := by
  cases n <;> simp [preorder]

theorem mem_preorderAll_iff {n : Node α} {ns : List (Node α)} :
    n ∈ preorderAll ns ↔ ∃ m ∈ ns, n ∈ m.preorder := by
  rw [preorderAll_eq, List.mem_flatMap]

/-- What holds of a container and of all nodes of its children holds of all its nodes. -/
theorem forall_mem_preorder_branch {P : Node α → Prop} {m : α} {c : Container}
    {ns : List (Node α)} :
    (∀ k ∈ (branch m c ns).preorder, P k) ↔
      P (branch m c ns) ∧ ∀ n ∈ ns, ∀ k ∈ n.preorder, P k := by
  constructor
  · intro h
    refine ⟨h _ (self_mem_preorder _), fun n hn k hk => h k ?_⟩
    exact List.mem_cons_of_mem _ (mem_preorderAll_iff.mpr ⟨n, hn, hk⟩)
  · rintro ⟨hroot, hbelow⟩ k hk
    rcases List.mem_cons.mp hk with rfl | hk
    · exact hroot
    · obtain ⟨n, hn, hk⟩ := mem_preorderAll_iff.mp hk
      exact hbelow n hn k hk

theorem mem_preorder_of_at? {path : List Nat} {n m : Node α} (h : n.at? path = some m) :
    m ∈ n.preorder := by
  induction path generalizing n with
  | nil =>
      cases h
      exact self_mem_preorder _
  | cons i path ih =>
      obtain ⟨child, hchild, hm⟩ := Option.bind_eq_some_iff.mp h
      cases n with
      | leaf mark l => cases hchild
      | branch mark c ns =>
          apply List.mem_cons_of_mem
          exact mem_preorderAll_iff.mpr ⟨child, List.mem_of_getElem? hchild, ih hm⟩

/-- No node of a tree has a child that the grammar forbids it. -/
def Grammatical (n : Node α) : Prop :=
  ∀ m ∈ n.preorder, ∀ child ∈ m.children, m.kind.admits child.kind = true

instance (n : Node α) : Decidable n.Grammatical :=
  inferInstanceAs (Decidable (∀ m ∈ n.preorder, ∀ child ∈ m.children, _))

theorem grammatical_branch_iff {m : α} {c : Container} {ns : List (Node α)} :
    (branch m c ns).Grammatical ↔
      (∀ n ∈ ns, c.kind.admits n.kind = true) ∧ ∀ n ∈ ns, n.Grammatical :=
  forall_mem_preorder_branch

theorem grammatical_child {n child : Node α} (hg : n.Grammatical) (hchild : child ∈ n.children) :
    n.kind.admits child.kind = true ∧ child.Grammatical := by
  cases n with
  | leaf m l => cases hchild
  | branch m c ns =>
      obtain ⟨hadmits, hbelow⟩ := grammatical_branch_iff.mp hg
      exact ⟨hadmits child hchild, hbelow child hchild⟩

/-- Inside running text there is nothing else. -/
theorem isInline_of_mem_preorder {n m : Node α} (hg : n.Grammatical)
    (hn : n.kind.isInline = true) (hm : m ∈ n.preorder) : m.kind.isInline = true := by
  induction n with
  | leaf mark l =>
      obtain rfl := List.mem_singleton.mp hm
      exact hn
  | branch mark c ns ih =>
      rcases List.mem_cons.mp hm with rfl | hm
      · exact hn
      · obtain ⟨child, hchild, hm⟩ := mem_preorderAll_iff.mp hm
        obtain ⟨hadmits, hbelow⟩ := grammatical_child hg hchild
        exact ih child hchild hbelow (Kind.isInline_of_admits (.inl hn) hadmits) hm

/-- Below a block of text there is nothing but running text. -/
theorem isInline_below {path : List Nat} {i : Nat} {n m : Node α} (hg : n.Grammatical)
    (hn : n.kind.isLeafBlock = true) (h : n.at? (i :: path) = some m) :
    m.kind.isInline = true := by
  obtain ⟨child, hchild, hm⟩ := Option.bind_eq_some_iff.mp h
  obtain ⟨hadmits, hbelow⟩ := grammatical_child hg (List.mem_of_getElem? hchild)
  have hinline := Kind.isInline_of_admits (.inr hn) hadmits
  exact isInline_of_mem_preorder hbelow hinline (mem_preorder_of_at? hm)

end Node

end RichText
