import RichText.Proofs.Node.Drafts
import RichText.Proofs.Node.Grammar
import RichText.Token.Nodes

/-! # The grammar of converted tokens

Whatever the types of tokens are and wherever they stand, the document made of them obeys the
grammar: running text is made where running text is due, blocks where blocks are due, and the tokens
inside a list become items without exception. -/

namespace RichText

/-- What holds of every single node that is made of a token. -/
structure Node.IsRegular (n : Tree) : Prop where
  admits : ∀ child ∈ n.children, n.kind.admits child.kind = true
  noBreak : n.kind ≠ .lineBreak ∧ n.kind ≠ .softBreak
  language : ∀ m code language, n = Node.leaf m (.codeBlock code (some language)) →
    language ≠ "" ∧ ∀ c ∈ language.toList, Text.isBlank c = false

namespace Token

/-- A node whose kind fits where it stands, and that is regular with all nodes below. -/
def Fits (fits : Kind → Prop) (n : Tree) : Prop := fits n.kind ∧ ∀ m ∈ n.preorder, Node.IsRegular m

theorem fits_leaf {fits : Kind → Prop} {l : Leaf} (hfits : fits l.kind)
    (hbreak : l.kind ≠ .lineBreak ∧ l.kind ≠ .softBreak)
    (hlanguage : ∀ code language, l = .codeBlock code (some language) →
      language ≠ "" ∧ ∀ c ∈ language.toList, Text.isBlank c = false) :
    Fits fits (Tree.leaf l) := by
  refine ⟨hfits, ?_⟩
  intro m hm
  obtain rfl := List.mem_singleton.mp hm
  refine { admits := nofun, noBreak := hbreak, language := ?_ }
  rintro m code language heq
  cases heq
  exact hlanguage code language rfl

theorem fits_branch {fits inside : Kind → Prop} {c : Container} {ns : List Tree}
    (hfits : fits c.kind) (hadmits : ∀ kind, inside kind → c.kind.admits kind = true)
    (hns : ∀ n ∈ ns, Fits inside n) : Fits fits (Tree.branch c ns) := by
  refine ⟨hfits, Node.forall_mem_preorder_branch.mpr ⟨?_, fun n hn => (hns n hn).2⟩⟩
  refine
    { admits := fun child hchild => hadmits _ (hns child hchild).1
      noBreak := ?_
      language := ?_ }
  · cases c <;> exact ⟨nofun, nofun⟩
  · rintro m code language heq
    cases heq

/-- The language of a block of code is a word. -/
theorem language_spec {attributes : List (String × Value)} {word : String}
    (h : language attributes = some word) :
    word ≠ "" ∧ ∀ c ∈ word.toList, Text.isBlank c = false := by
  unfold language at h
  split at h
  · rename_i info _
    split at h
    · cases h
    · rename_i hword
      cases h
      constructor
      · intro hempty
        apply hword
        simpa using congrArg String.toList hempty
      · intro c hc
        rw [String.toList_ofList] at hc
        exact Text.not_isBlank_of_mem_firstWord hc
  · cases h

mutual

theorem fits_inline : ∀ t : Token, ∀ n ∈ (inline t).value, Fits (·.isInline = true) n
  | mk type raw attributes children => by
    have hchildren := fits_inlines children
    intro n hn
    rw [inline] at hn
    cases hsort : InlineSort.ofType? type with
    | none =>
        rw [hsort] at hn
        cases hn
    | some sort =>
        rw [hsort] at hn
        cases sort with
        | text | codeSpan | lineBreak | softBreak | inlineHtml =>
            cases hn
            exact fits_leaf rfl ⟨nofun, nofun⟩ nofun
        | strong | emphasis | strikethrough | link | image =>
            cases hn
            exact fits_branch rfl (fun _ h => h) hchildren

theorem fits_inlines : ∀ ts : List Token, ∀ n ∈ (inlines ts).value, Fits (·.isInline = true) n
  | [] => nofun
  | t :: ts => by
    intro n hn
    rcases List.mem_append.mp hn with hn | hn
    · exact fits_inline t n (Option.mem_toList.mp hn)
    · exact fits_inlines ts n hn

end

theorem kind_listContainer (attributes : List (String × Value)) :
    (listContainer attributes).kind.isBlock = true ∧
      ∀ kind, kind = .listItem → (listContainer attributes).kind.admits kind = true := by
  unfold listContainer
  split <;> exact ⟨rfl, fun _ h => h ▸ rfl⟩

mutual

theorem fits_block : ∀ t : Token, ∀ n ∈ (block t).value, Fits (·.isBlock = true) n
  | mk type raw attributes children => by
    intro n hn
    rw [block] at hn
    cases hsort : BlockSort.ofType? type with
    | none =>
        rw [hsort] at hn
        cases hn
    | some sort =>
        rw [hsort] at hn
        cases sort with
        | blankLine => cases hn
        | thematicBreak | htmlBlock =>
            cases hn
            exact fits_leaf rfl ⟨nofun, nofun⟩ nofun
        | codeBlock =>
            cases hn
            refine fits_leaf rfl ⟨nofun, nofun⟩ ?_
            intro code word h
            injection h with _ hword
            exact language_spec hword
        | heading | paragraph =>
            cases hn
            exact fits_branch rfl (fun _ h => h) (fits_inlines children)
        | blockQuote =>
            cases hn
            exact fits_branch rfl (fun _ h => h) (fits_blocks children)
        | list =>
            cases hn
            have hlist := kind_listContainer attributes
            exact fits_branch hlist.1 hlist.2 (fits_items children)

theorem fits_blocks : ∀ ts : List Token, ∀ n ∈ (blocks ts).value, Fits (·.isBlock = true) n
  | [] => nofun
  | t :: ts => by
    intro n hn
    rcases List.mem_append.mp hn with hn | hn
    · exact fits_block t n (Option.mem_toList.mp hn)
    · exact fits_blocks ts n hn

theorem fits_items : ∀ ts : List Token, ∀ n ∈ (items ts).value, Fits (· = .listItem) n
  | [] => nofun
  | mk type raw attributes children :: ts => by
    intro n hn
    rcases List.mem_cons.mp hn with rfl | hn
    · exact fits_branch rfl (fun _ h => h) (fits_blocks children)
    · exact fits_items ts n hn

end

theorem fits_document (ts : List Token) : Fits (· = .document) (document ts).value :=
  fits_branch rfl (fun _ h => h) (fits_blocks ts)

end Token

end RichText
