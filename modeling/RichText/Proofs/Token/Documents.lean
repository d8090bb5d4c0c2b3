import Mathlib.Data.List.Forall2
import RichText.Proofs.Token.Pruning
import RichText.Render.Basic

/-! # Documents made of tokens

What is known of a document that was made of tokens, whatever the tokens were. -/

namespace RichText

theorem Kind.eq_listItem_iff_of_admits {parent child : Kind} (h : parent.admits child = true) :
    child = .listItem ↔ parent.isList = true := by
  cases parent <;> cases child <;> simp_all [admits, isBlock, isInline, isList]

namespace Node

variable {α : Type}

def task? : Node α → Option (Option Task)
  | branch _ (.listItem task) _ => some task
  | _ => none

/-- The states of the items of a tree, in document order. -/
def tasks (n : Node α) : List (Option Task) := n.preorder.filterMap task?

theorem filterMap_task?_preorderAll (ns : List (Node α)) :
    (preorderAll ns).filterMap task? = ns.flatMap tasks := by
  rw [preorderAll_eq, List.filterMap_flatMap]
  rfl

theorem tasks_listItem (m : α) (task : Option Task) (ns : List (Node α)) :
    (branch m (.listItem task) ns).tasks = task :: ns.flatMap tasks :=
  congrArg (List.cons task) (filterMap_task?_preorderAll ns)

theorem tasks_branch {m : α} {c : Container} {ns : List (Node α)} (hc : c.kind ≠ .listItem) :
    (branch m c ns).tasks = ns.flatMap tasks := by
  have hnone : task? (branch m c ns) = none := by
    cases c with
    | listItem task => exact (hc rfl).elim
    | _ => rfl
  rw [tasks, preorder, List.filterMap_cons, hnone, filterMap_task?_preorderAll]

theorem tasks_eq_nil_of_isInline {n : Node α} (hg : n.Grammatical) (hn : n.kind.isInline = true) :
    n.tasks = [] := by
  apply List.filterMap_eq_nil_iff.mpr
  intro m hm
  have hinline := isInline_of_mem_preorder hg hn hm
  cases m with
  | leaf mark l => rfl
  | branch mark c ns =>
      cases c with
      | listItem task => cases hinline
      | _ => rfl

end Node

namespace Token

/-! ## Items -/

mutual

def itemTokens : Token → List Token
  | mk type _ _ children =>
    match type with
    | "block_quote" => itemTokensAll children
    | "list" => listTokens children
    | _ => []

def itemTokensAll : List Token → List Token
  | [] => []
  | t :: ts => t.itemTokens ++ itemTokensAll ts

/-- The tokens inside a list, all of which become items, and those further down. -/
def listTokens : List Token → List Token
  | [] => []
  | mk type raw attributes children :: ts =>
    mk type raw attributes children :: (itemTokensAll children ++ listTokens ts)

end

theorem itemTokens_mk (type raw : String) (attributes : List (String × Value))
    (children : List Token) :
    (mk type raw attributes children).itemTokens =
      match BlockSort.ofType? type with
      | some .blockQuote => itemTokensAll children
      | some .list => listTokens children
      | _ => [] := by
  fun_cases BlockSort.ofType? type with
  | case10 => simp_all [itemTokens]
  | _ => rfl

theorem tasks_inlines (ts : List Token) : (inlines ts).value.flatMap Node.tasks = [] := by
  apply List.flatMap_eq_nil_iff.mpr
  intro n hn
  obtain ⟨hinline, hregular⟩ := fits_inlines ts n hn
  exact Node.tasks_eq_nil_of_isInline (fun m hm => (hregular m hm).admits) hinline

mutual

theorem tasks_block : ∀ t : Token,
    (block t).value.toList.flatMap Node.tasks = t.itemTokens.map fun t => task t.attributes
  | mk type raw attributes children => by
    have hbranch {c : Container} (hc : c.kind ≠ .listItem) (ns : List Tree) :
        [Tree.branch c ns].flatMap Node.tasks = ns.flatMap Node.tasks :=
      (List.flatMap_singleton ..).trans (Node.tasks_branch hc)
    rw [itemTokens_mk, block]
    cases BlockSort.ofType? type with
    | none => rfl
    | some sort =>
        cases sort with
        | codeBlock | thematicBreak | htmlBlock | blankLine => rfl
        | heading | paragraph =>
            refine (hbranch ?_ _).trans (tasks_inlines children)
            nofun
        | blockQuote =>
            refine (hbranch ?_ _).trans (tasks_blocks children)
            nofun
        | list =>
            refine (hbranch ?_ _).trans (tasks_items children)
            intro hkind
            have hblock := (kind_listContainer attributes).1
            rw [hkind] at hblock
            cases hblock

theorem tasks_blocks : ∀ ts : List Token,
    (blocks ts).value.flatMap Node.tasks = (itemTokensAll ts).map fun t => task t.attributes
  | [] => rfl
  | t :: ts => by
    rw [itemTokensAll, List.map_append, ← tasks_block t, ← tasks_blocks ts]
    exact List.flatMap_append

theorem tasks_items : ∀ ts : List Token,
    (items ts).value.flatMap Node.tasks = (listTokens ts).map fun t => task t.attributes
  | [] => rfl
  | mk type raw attributes children :: ts => by
    rw [listTokens, List.map_cons, List.map_append, ← tasks_blocks children, ← tasks_items ts]
    refine List.flatMap_cons.trans ?_
    exact congrArg (· ++ _) (Node.tasks_listItem () (task attributes) _)

end

/-- An item is a task exactly if its token says whether it is checked. -/
theorem isSome_task_iff (attributes : List (String × Value)) :
    (task attributes).isSome = true ↔ "checked" ∈ attributes.map (·.1) := by
  rw [task, Option.isSome_map, List.lookup_isSome_iff]
  simp

/-! ## Ranks of headings -/

/-- The number that a heading is made with; whatever is no rank counts as 1. -/
def rank (attributes : List (String × Value)) : Int :=
  match (attributes.lookup "level").bind Value.int? with
  | some level => if level < 1 ∨ 6 < level then 1 else level
  | none => 1

theorem ofInt_rank (attributes : List (String × Value)) :
    HeadingLevel.ofInt (rank attributes) = .ok (headingLevel attributes) := by
  unfold rank headingLevel
  cases (attributes.lookup "level").bind Value.int? with
  | none => rfl
  | some level =>
      by_cases hrange : level < 1 ∨ 6 < level
      · have hnone : HeadingLevel.ofInt? level = none := dif_neg (by omega)
        simp only [hrange, if_true, hnone, Option.getD_none]
        rfl
      · have hsome : HeadingLevel.ofInt? level =
            some ⟨level.toNat, by omega, by omega⟩ := dif_pos (by omega)
        simp only [hrange, if_false, HeadingLevel.ofInt, hsome, Option.getD_some]

/-! ## Documents -/

/-- What holds of the document made of some tokens. -/
structure IsDocumentOf (ts : List Token) (doc : Tree) : Prop where
  kind_eq : doc.kind = .document
  grammatical : doc.Grammatical
  /-- Items stand in lists and nowhere else, and no child of a list is left out in a rendering. -/
  items : ∀ m c ns, Node.branch m c ns ∈ doc.preorder → ∀ n ∈ ns,
    (n.kind = .listItem ↔ c.kind.isList = true) ∧ Renderer.renders c n.kind = true
  noBreak : ∀ n ∈ doc.preorder, n.kind ≠ .lineBreak ∧ n.kind ≠ .softBreak
  /-- The ranks of all headings pass the checks that a tree is built with. -/
  built : doc.draft.build = .ok doc
  language : ∀ m code language, Node.leaf m (.codeBlock code (some language)) ∈ doc.preorder →
    language ≠ "" ∧ ∀ c ∈ language.toList, Text.isBlank c = false
  /-- The items in document order are tasks or not as their tokens say. -/
  tasks : List.Forall₂ (fun t state => state.isSome = true ↔ "checked" ∈ t.attributes.map (·.1))
    (itemTokensAll ts) doc.tasks
  /-- Without the tokens that mean nothing the document is the same, and nothing is skipped. -/
  pruned : document (prunedBlocks ts) = pure doc

theorem tasks_document (ts : List Token) :
    (document ts).value.tasks = (itemTokensAll ts).map fun t => task t.attributes :=
  (Node.tasks_branch (c := .document) nofun).trans (tasks_blocks ts)

/-- Tokens of any types in any places make a document that obeys the grammar. The ranks of its
headings are the numbers given, or 1 where those are no ranks. -/
theorem isDocumentOf_document (ts : List Token) :
    IsDocumentOf ts (document ts).value ∧
      ∀ attributes, HeadingLevel.ofInt (rank attributes) = .ok (headingLevel attributes) := by
  obtain ⟨hkind, hregular⟩ := fits_document ts
  refine ⟨?_, ofInt_rank⟩
  exact {
    kind_eq := hkind
    grammatical := fun m hm => (hregular m hm).admits
    items := by
      intro m c ns hbranch n hn
      have hiff := Kind.eq_listItem_iff_of_admits ((hregular _ hbranch).admits n hn)
      refine ⟨hiff, ?_⟩
      cases hlist : c.kind.isList with
      | false => simp only [Renderer.renders, hlist, Bool.not_false, Bool.true_or]
      | true => simp only [Renderer.renders, hiff.mpr hlist, decide_true, Bool.or_true]
    noBreak := fun m hm => (hregular m hm).noBreak
    built := Node.build_draft _
    language := fun m code language hm => (hregular _ hm).language m code language rfl
    tasks := by
      rw [tasks_document, List.forall₂_map_right_iff, List.forall₂_same]
      exact fun t _ => isSome_task_iff t.attributes
    pruned := document_prunedBlocks ts }

end Token

end RichText
