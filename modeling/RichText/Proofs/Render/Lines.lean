import RichText.Proofs.Node.Grammar
import RichText.Proofs.Render.Sources
import RichText.Proofs.Render.Texts

/-! # Lines of a rendering

In a document that obeys the grammar, text of two different blocks never stands on one line. What
ends the line need not belong to either block: it is the gap behind the child of their lowest common
ancestor that holds the first of them. -/

namespace RichText

section Separated

variable {β : Type} {rel : β → β → Prop} {breaks : β → Prop}

/-- Between two related entries of a list there is always one that breaks it. -/
def Separated (rel : β → β → Prop) (breaks : β → Prop) (xs : List β) : Prop :=
  ∀ before x between y after, xs = before ++ x :: (between ++ y :: after) → rel x y →
    ∃ z ∈ between, breaks z

theorem Separated.of_unrelated {xs : List β} (h : ∀ x ∈ xs, ∀ y ∈ xs, ¬ rel x y) :
    Separated rel breaks xs := by
  rintro before x between y after rfl hrel
  exact (h x (by simp) y (by simp) hrel).elim

/-- Two lists may be joined if the first one ends with a break wherever their entries are
related. -/
theorem Separated.append {xs ys : List β} (hxs : Separated rel breaks xs)
    (hys : Separated rel breaks ys)
    (hcross : ∀ x ∈ xs, ∀ y ∈ ys, rel x y →
      ¬ breaks x ∧ ∃ z, xs.getLast? = some z ∧ breaks z) :
    Separated rel breaks (xs ++ ys) := by
  intro before x between y after h hrel
  rcases List.append_eq_append_iff.mp h with ⟨front, rfl, hrest⟩ | ⟨back, rfl, hrest⟩
  · exact hys front x between y after hrest hrel
  · cases back with
    | nil => exact hys [] x between y after hrest.symm hrel
    | cons x' back =>
        rw [List.cons_append] at hrest
        obtain ⟨rfl, htail⟩ := List.cons.inj hrest
        -- What breaks the first list at its end stands behind its related entry.
        have hbreak : y ∈ ys → ∃ z ∈ back, breaks z := by
          intro hy
          obtain ⟨hx, z, hlast, hz⟩ := hcross x (by simp) y hy hrel
          rw [List.getLast?_append_cons] at hlast
          rcases List.mem_cons.mp (List.mem_of_getLast? hlast) with rfl | hmem
          · exact (hx hz).elim
          · exact ⟨z, hmem, hz⟩
        rcases List.append_eq_append_iff.mp htail with ⟨front, rfl, hafter⟩ | ⟨front, rfl, hafter⟩
        · cases front with
          | nil =>
              rw [List.nil_append] at hafter
              rw [List.append_nil] at hbreak
              exact hbreak (hafter ▸ List.mem_cons_self)
          | cons y' front =>
              rw [List.cons_append] at hafter
              obtain ⟨rfl, -⟩ := List.cons.inj hafter
              exact hxs before x between y front rfl hrel
        · obtain ⟨z, hmem, hz⟩ := hbreak (by simp [hafter])
          exact ⟨z, List.mem_append_left _ hmem, hz⟩

end Separated

namespace Node

variable {α : Type}

/-- A path leads to a block that holds text. -/
def HasLeafBlock (root : Node α) (path : List Nat) : Prop :=
  ∃ n, root.at? path = some n ∧ n.kind.isLeafBlock = true

/-- Two sources show contents of two different blocks. -/
structure Apart (root : Node α) (x y : RunSource) : Prop where
  fst : x.IsContent
  snd : y.IsContent
  blocks : ∃ p q, root.HasLeafBlock p ∧ root.HasLeafBlock q ∧ p ≠ q ∧ p <+: x.path ∧ q <+: y.path

end Node

/-- A gap that ends a line. -/
def RunSource.BreaksLine (x : RunSource) : Prop := ∃ gap, x.origin = .gap gap ∧ '\n' ∈ gap.toList

theorem RunSource.IsContent.not_breaksLine {x : RunSource} (h : x.IsContent) : ¬ x.BreaksLine := by
  rintro ⟨gap, hgap, -⟩
  simp [IsContent, hgap, Origin.content?] at h

theorem Scope.exists_gap {s : Scope} {kind : Kind} (hfollowed : s.followed = true)
    (hkind : kind.isBlock = true ∨ kind = .listItem)
    (hshown : kind ≠ .thematicBreak ∧ kind ≠ .htmlBlock) :
    ∃ text, '\n' ∈ text.toList ∧ s.gap kind = [{ origin := .gap text }] := by
  unfold Scope.gap
  rw [if_pos hfollowed]
  cases kind with
  | codeBlock | listItem => exact ⟨"\n", by decide, rfl⟩
  | heading | unorderedList | blockQuote => exact ⟨"\n\n", by decide, rfl⟩
  | paragraph | orderedList =>
      refine ⟨_, ?_, rfl⟩
      split <;> decide
  | thematicBreak => exact (hshown.1 rfl).elim
  | htmlBlock => exact (hshown.2 rfl).elim
  | _ => simp [Kind.isBlock] at hkind

namespace Node

variable {α : Type}

theorem exists_sources_eq (n : Node α) (s : Scope) (here : List Nat) :
    ∃ front, n.sources s here = front ++ Piece.sources here (s.gap n.kind) := by
  cases n <;> exact ⟨_, rfl⟩

/-- What holds contents of blocks and is not the last child ends with a gap. -/
theorem exists_getLast?_sources {n : Node α} {s : Scope} {here : List Nat} {x : RunSource}
    (hkind : n.kind.isBlock = true ∨ n.kind = .listItem) (hx : x ∈ n.sources s here)
    (hcontent : x.IsContent) (hfollowed : s.followed = true) :
    ∃ z, (n.sources s here).getLast? = some z ∧ z.BreaksLine := by
  have hshown : n.kind ≠ .thematicBreak ∧ n.kind ≠ .htmlBlock := by
    cases n with
    | leaf m l =>
        rcases List.mem_append.mp hx with hx | hx
        · cases l <;> simp_all [Piece.sources, Leaf.pieces, kind, Leaf.kind]
        · exact (RunSource.not_isContent_gap hx hcontent).elim
    | branch m c ns => cases c <;> simp [kind, Container.kind]
  obtain ⟨text, hline, hgap⟩ := Scope.exists_gap hfollowed hkind hshown
  obtain ⟨front, hfront⟩ := n.exists_sources_eq s here
  refine ⟨⟨here, .gap text⟩, ?_, text, rfl, hline⟩
  rw [hfront, hgap]
  exact List.getLast?_concat

/-- At a block of text, and above it, there is no other block of text. -/
theorem not_apart {root n : Node α} {here : List Nat} {x y : RunSource}
    (hn : root.at? here = some n)
    (habove : ∀ p, p <+: here → root.HasLeafBlock p → p = here)
    (hbelow : ∀ i path m, n.at? (i :: path) = some m → m.kind.isLeafBlock = false)
    (hx : here <+: x.path) (hy : here <+: y.path) : ¬ root.Apart x y := by
  have heq : ∀ p z, root.HasLeafBlock p → p <+: z → here <+: z → p = here := by
    intro p z hp hz hhere
    rcases List.prefix_or_prefix_of_prefix hz hhere with hle | ⟨rest, rfl⟩
    · exact habove p hle hp
    · cases rest with
      | nil => exact List.append_nil here
      | cons i path =>
          obtain ⟨m, hm, hleaf⟩ := hp
          rw [at?_append, hn, Option.bind_some] at hm
          rw [hbelow i path m hm] at hleaf
          cases hleaf
  rintro ⟨-, -, p, q, hp, hq, hne, hpx, hqy⟩
  exact hne ((heq p _ hp hpx hx).trans (heq q _ hq hqy hy).symm)

theorem separated_sourcesAll {root : Node α} {s : Scope} {c : Container} {mark : Option Mark}
    {here : List Nat} {ns : List (Node α)} {index position : Nat}
    (hkind : ∀ n ∈ ns, n.kind.isBlock = true ∨ n.kind = .listItem)
    (hns : ∀ (i : Nat) (n : Node α), ns[i]? = some n → ∀ s',
      Separated root.Apart RunSource.BreaksLine (n.sources s' (here ++ [position + i]))) :
    Separated root.Apart RunSource.BreaksLine (sourcesAll s c mark here index position ns) := by
  induction ns generalizing index position with
  | nil => exact Separated.of_unrelated fun x hx => nomatch hx
  | cons n ns ih =>
      have hrest : ∀ j, Separated root.Apart RunSource.BreaksLine
          (sourcesAll s c mark here j (position + 1) ns) := by
        intro j
        apply ih fun m hm => hkind m (List.mem_cons_of_mem n hm)
        intro i m hm s'
        have h := hns (i + 1) m hm s'
        rwa [Nat.add_comm i 1, ← Nat.add_assoc] at h
      rw [sourcesAll]
      split
      · apply Separated.append ?_ (hrest _)
        · intro x hx y hy hapart
          refine ⟨hapart.fst.not_breaksLine, ?_⟩
          rcases List.mem_append.mp hx with hx | hx
          · exact (RunSource.not_isContent_marker hx hapart.fst).elim
          · have hfollowed : (s.below c.kind !ns.isEmpty).followed = true := by
              cases ns with
              | nil => cases hy
              | cons m ns => rfl
            obtain ⟨z, hlast, hz⟩ :=
              exists_getLast?_sources (hkind n List.mem_cons_self) hx hapart.fst hfollowed
            exact ⟨z, by rw [List.getLast?_append, hlast]; rfl, hz⟩
        · apply Separated.append
          · apply Separated.of_unrelated
            intro x hx y _ hapart
            exact RunSource.not_isContent_marker hx hapart.fst
          · exact hns 0 n rfl _
          · intro x hx y _ hapart
            exact (RunSource.not_isContent_marker hx hapart.fst).elim
      · exact hrest _

/-- Wherever a node stands among the blocks of a tree, no line of it holds text of two blocks. -/
theorem separated_sources {root n : Node α} {s : Scope} {here : List Nat} (hg : n.Grammatical)
    (hkind : n.kind = .document ∨ n.kind.isBlock = true ∨ n.kind = .listItem)
    (hn : root.at? here = some n)
    (habove : ∀ p, p <+: here → root.HasLeafBlock p → p = here) :
    Separated root.Apart RunSource.BreaksLine (n.sources s here) := by
  induction n generalizing s here with
  | leaf m l =>
      apply Separated.of_unrelated
      intro x hx y hy
      exact not_apart hn habove (fun i path k hk => nomatch hk) (prefix_path hx) (prefix_path hy)
  | branch m c ns ih =>
      by_cases hleaf : c.kind.isLeafBlock = true
      · apply Separated.of_unrelated
        intro x hx y hy
        refine not_apart hn habove ?_ (prefix_path hx) (prefix_path hy)
        intro i path k hk
        exact Kind.not_isLeafBlock_of_isInline (isInline_below hg hleaf hk)
      · obtain ⟨hadmits, hbelow⟩ := grammatical_branch_iff.mp hg
        have hchildren : ∀ n ∈ ns, n.kind.isBlock = true ∨ n.kind = .listItem := by
          intro n hmem
          exact Kind.isBlock_or_eq_of_admits hkind hleaf (hadmits n hmem)
        apply Separated.append
        · apply separated_sourcesAll hchildren
          intro i child hchild s'
          have hmem := List.mem_of_getElem? hchild
          apply ih child hmem (hbelow child hmem) (.inr (hchildren child hmem))
          · rw [at?_append, hn, Option.bind_some, at?, children, Nat.zero_add, hchild]
            rfl
          · intro p hp hblock
            rcases List.prefix_concat_iff.mp hp with rfl | hp
            · rfl
            · obtain rfl := habove p hp hblock
              obtain ⟨k, hk, hkleaf⟩ := hblock
              cases hn.symm.trans hk
              exact (hleaf hkleaf).elim
        · apply Separated.of_unrelated
          intro x hx y _ hapart
          exact RunSource.not_isContent_gap hx hapart.fst
        · intro x _ y hy hapart
          exact (RunSource.not_isContent_gap hy hapart.snd).elim

end Node

namespace Renderer

variable (r : Renderer)

/-- Every run of a document that obeys the grammar has its source, and between contents of two
different blocks there is always a gap with a line break in it. -/
theorem separated_render {α : Type} {tree : Node α} {out : StyledText}
    (hkind : tree.kind = .document) (hgrammar : tree.Grammatical)
    (h : (r.render tree.placed).result = .ok out) :
    tree.allSources.length = out.runs.length ∧
      (∀ x ∈ tree.allSources.zip out.runs,
        x.2.text = x.1.origin.text r.options.bullet ∧
          ∀ text, x.1.origin.content? = some text →
            ∃ m l, tree.at? x.1.path = some (.leaf m l) ∧ l.contents = [text]) ∧
      Separated (fun x y => tree.Apart x.1 y.1)
        (fun z => z.1.BreaksLine ∧ '\n' ∈ z.2.text.toList) (tree.allSources.zip out.runs) := by
  have horigins : tree.allSources.map (·.origin) = (tree.piecesAt []).map (·.origin) :=
    tree.map_origin_sources {} []
  have htexts : out.runs.map (·.text) =
      tree.allSources.map (·.origin.text r.options.bullet) := by
    have htext := congrArg (List.map (Origin.text r.options.bullet)) horigins
    rw [List.map_map, List.map_map] at htext
    rw [r.texts_render tree [] rfl h]
    exact htext.symm
  have hlength : tree.allSources.length = out.runs.length := by
    have hlength := congrArg List.length htexts
    rw [List.length_map, List.length_map] at hlength
    exact hlength.symm
  have htext : ∀ x ∈ tree.allSources.zip out.runs,
      x.2.text = x.1.origin.text r.options.bullet := by
    intro x hx
    obtain ⟨i, hi, rfl⟩ := List.getElem_of_mem hx
    have hat := congrArg (·[i]?) htexts
    rw [List.length_zip] at hi
    simpa [List.getElem?_eq_getElem (show i < out.runs.length by omega),
      List.getElem?_eq_getElem (show i < tree.allSources.length by omega)] using hat
  refine ⟨hlength, ?_, ?_⟩
  · intro x hx
    refine ⟨htext x hx, ?_⟩
    intro text hcontent
    exact Node.exists_leaf_of_mem_sources rfl (List.of_mem_zip hx).1 hcontent
  · intro before x between y after hzip hapart
    have hsources : tree.allSources = before.map (·.1) ++
        x.1 :: (between.map (·.1) ++ y.1 :: after.map (·.1)) := by
      have hfst := congrArg (List.map Prod.fst) hzip
      rw [List.map_fst_zip (Nat.le_of_eq hlength)] at hfst
      simpa using hfst
    have hroot : ∀ p, p <+: [] → tree.HasLeafBlock p → p = [] :=
      fun p hp _ => List.prefix_nil.mp hp
    obtain ⟨z, hz, hbreak⟩ := Node.separated_sources hgrammar (.inl hkind) rfl hroot
      _ _ _ _ _ hsources hapart
    obtain ⟨z, hmem, rfl⟩ := List.mem_map.mp hz
    refine ⟨z, hmem, hbreak, ?_⟩
    obtain ⟨gap, hgap, hline⟩ := hbreak
    rw [htext z (by simp [hzip, hmem]), hgap]
    exact hline

end Renderer

/-- A paragraph in an item in a quote, and a block of code in an item of another list. A break and
markup that show nothing stand between them. -/
def Tree.nestedBlocks : Tree :=
  .branch .document [
    .branch .blockQuote [
      .branch .unorderedList [.branch (.listItem none) [.branch .paragraph [.text "a"]]]],
    .leaf .thematicBreak,
    .leaf (.htmlBlock "<hr>"),
    .branch (.orderedList 1) [.branch (.listItem none) [.leaf (.codeBlock "b" none)]]]

/-- Neither the paragraph nor its item nor its list is followed by anything. The quote is. -/
theorem separated_render_nestedBlocks :
    Tree.nestedBlocks.kind = .document ∧ Tree.nestedBlocks.Grammatical ∧
      ∃ out before x between y after,
        ((Renderer.mk {} .fixed).render Tree.nestedBlocks.placed).result = .ok out ∧
        Tree.nestedBlocks.allSources.zip out.runs = before ++ x :: (between ++ y :: after) ∧
        x.1 = ⟨[0, 0, 0, 0, 0], .literal "a"⟩ ∧ y.1 = ⟨[3, 0, 0], .code "b"⟩ ∧
        ∃ z ∈ between, z.1.BreaksLine ∧ '\n' ∈ z.2.text.toList := by
  have hgrammar : Tree.nestedBlocks.Grammatical := by decide
  obtain ⟨out, hout⟩ := Traced.exists_result_eq_ok
    (x := (Renderer.mk {} .fixed).render Tree.nestedBlocks.placed) (by decide +kernel)
  obtain ⟨-, -, hseparated⟩ := Renderer.separated_render _ rfl hgrammar hout
  have hzip : ∃ a b x c d y,
      Tree.nestedBlocks.allSources.zip out.runs = [a, b] ++ x :: ([c, d] ++ y :: []) ∧
        x.1 = ⟨[0, 0, 0, 0, 0], .literal "a"⟩ ∧ y.1 = ⟨[3, 0, 0], .code "b"⟩ := by
    have hplaced : Tree.nestedBlocks.placed.at? [] = some Tree.nestedBlocks.placed := rfl
    rw [(Renderer.shows_render hplaced hout).runs_eq]
    exact ⟨_, _, _, _, _, _, rfl, rfl, rfl⟩
  obtain ⟨a, b, x, c, d, y, hzip, hx, hy⟩ := hzip
  have hapart : Tree.nestedBlocks.Apart x.1 y.1 := by
    rw [hx, hy]
    exact
      { fst := rfl
        snd := rfl
        blocks := ⟨[0, 0, 0, 0], [3, 0, 0], ⟨_, rfl, rfl⟩, ⟨_, rfl, rfl⟩, by decide, by decide,
          by decide⟩ }
  exact ⟨rfl, hgrammar, out, [a, b], x, [c, d], y, [], hout, hzip, hx, hy,
    hseparated _ _ _ _ _ hzip hapart⟩

end RichText
