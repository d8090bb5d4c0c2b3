import RichText.Proofs.Render.Faults

/-! # Documents in a row

A document of the blocks of two documents shows what the first shows, a gap, and what the second
shows. Of all that is known of the blocks only one thing changes: the last block of the first
document has a sibling after it now. -/

namespace RichText

namespace Node

variable {α : Type}

/-- A container hands down the same to its children, whether or not a sibling comes after it. -/
theorem piecesAll_followed (s : Scope) (kind : Kind) (c : Container) (mark : Option Mark)
    (index : Nat) (ns : List (Node α)) :
    piecesAll (s.below kind true) c mark index ns = piecesAll (s.below kind false) c mark index ns := by
  induction ns generalizing index with
  | nil => rfl
  | cons n ns ih =>
      rw [piecesAll, piecesAll, ih, ih]
      rfl

/-- A sibling after a node adds the gap behind it and changes nothing else. -/
theorem pieces_followed (s : Scope) (kind : Kind) (n : Node α) :
    n.pieces (s.below kind true) =
      n.pieces (s.below kind false) ++ (s.below kind true).gap n.kind := by
  have hgap : ∀ kind', (s.below kind false).gap kind' = [] := fun _ => rfl
  cases n with
  | leaf m l => rw [pieces, pieces, hgap, List.append_nil]; rfl
  | branch m c ns =>
      rw [pieces, pieces, hgap, List.append_nil, piecesAll_followed]
      rfl

/-- Blocks of a document have no markers to count, and each but the last has a sibling after it. -/
theorem piecesAll_document_cons (s : Scope) (n : Node α) {ns : List (Node α)} (hns : ns ≠ []) :
    piecesAll s .document none 0 (n :: ns) =
      n.pieces (s.below .document true) ++ piecesAll s .document none 0 ns := by
  have hindex : ∀ (ms : List (Node α)) i j,
      piecesAll s .document none i ms = piecesAll s .document none j ms := by
    intro ms
    induction ms with
    | nil => exact fun _ _ => rfl
    | cons m ms ih =>
        intro i j
        rw [piecesAll, piecesAll, ih (i + 1) (j + 1), ih i j]
        rfl
  have hshow : Container.document.shows n.kind := fun h => absurd h (by decide)
  have hmore : (!ns.isEmpty) = true := by simpa using hns
  rw [piecesAll, if_pos hshow, hmore, hindex ns (0 + 1) 0]
  rfl

/-- The pieces of blocks in a document, and of more blocks after them. -/
theorem piecesAll_document_append (s : Scope) (before : List (Node α)) (last next : Node α)
    (after : List (Node α)) :
    piecesAll s .document none 0 (before ++ [last] ++ next :: after) =
      piecesAll s .document none 0 (before ++ [last]) ++ (s.below .document true).gap last.kind ++
        piecesAll s .document none 0 (next :: after) := by
  induction before with
  | nil =>
      simp only [List.nil_append, List.cons_append]
      rw [piecesAll_document_cons s last (List.cons_ne_nil next after), pieces_followed]
      simp [piecesAll, Mark.pieces, Container.shows, Container.kind, Kind.isList]
  | cons n before ih =>
      simp only [List.cons_append] at ih ⊢
      rw [piecesAll_document_cons s n (by simp), ih, piecesAll_document_cons s n (by simp)]
      simp only [List.append_assoc]

theorem heightAll_append (ns ms : List (Node α)) :
    heightAll (ns ++ ms) = max (heightAll ns) (heightAll ms) := by
  induction ns with
  | nil => simp [heightAll]
  | cons n ns ih =>
      rw [List.cons_append, heightAll, heightAll, ih]
      omega

end Node

namespace Renderer

variable (r : Renderer)

/-- Near the root of a tree no checkpoint minds whether a sibling comes after it. -/
theorem faultAt?_followed {above : List Kind} (habove : above.length ≤ 10000) (kind : Kind)
    (children : Nat) :
    r.faultAt? ⟨kind, above, true, children⟩ = r.faultAt? ⟨kind, above, false, children⟩ := by
  cases kind with
  | paragraph => simp [faultAt?, Nat.not_lt.mpr habove]
  | _ => rfl

section Nodes

variable {α : Type}

theorem findSome?_checkpoints_followed {above : List Kind} (habove : above.length ≤ 10000)
    (n : Node α) :
    (n.checkpoints above true).findSome? r.faultAt? =
      (n.checkpoints above false).findSome? r.faultAt? := by
  cases n with
  | leaf m l => rfl
  | branch m c ns =>
      rw [Node.checkpoints, Node.checkpoints]
      split
      · simp only [List.findSome?_append, List.findSome?_cons, r.faultAt?_followed habove]
      · simp only [List.findSome?_cons, r.faultAt?_followed habove]

theorem checkpointsAll_document_cons (above : List Kind) (n : Node α) {ns : List (Node α)}
    (hns : ns ≠ []) :
    Node.checkpointsAll .document above (n :: ns) =
      n.checkpoints above true ++ Node.checkpointsAll .document above ns := by
  have hshow : Container.document.shows n.kind := fun h => absurd h (by decide)
  have hmore : (!ns.isEmpty) = true := by simpa using hns
  rw [Node.checkpointsAll, if_pos hshow, hmore]

/-- The first fault of the blocks of a document, and of more blocks after them. -/
theorem findSome?_checkpointsAll_append {above : List Kind} (habove : above.length ≤ 10000)
    (before : List (Node α)) (last next : Node α) (after : List (Node α)) :
    (Node.checkpointsAll .document above (before ++ [last] ++ next :: after)).findSome? r.faultAt? =
      ((Node.checkpointsAll .document above (before ++ [last])).findSome? r.faultAt?).or
        ((Node.checkpointsAll .document above (next :: after)).findSome? r.faultAt?) := by
  induction before with
  | nil =>
      simp only [List.nil_append, List.cons_append]
      rw [checkpointsAll_document_cons above last (List.cons_ne_nil next after),
        List.findSome?_append, r.findSome?_checkpoints_followed habove]
      simp [Node.checkpointsAll, Container.shows, Container.kind, Kind.isList]
  | cons n before ih =>
      simp only [List.cons_append] at ih ⊢
      rw [checkpointsAll_document_cons above n (by simp), List.findSome?_append, ih,
        checkpointsAll_document_cons above n (by simp), List.findSome?_append, Option.or_assoc]

end Nodes

/-- What goes between two documents in a row, after a last block of some kind: a run with a font and
no other attribute, or nothing. -/
def documentGap (kind : Kind) : List Run :=
  match kind with
  | .codeBlock | .listItem => [⟨"\n", { font := .value r.baseFont.value }⟩]
  | .paragraph | .heading | .unorderedList | .orderedList | .blockQuote =>
    [⟨"\n\n", { font := .value r.baseFont.value }⟩]
  | _ => []

/-- The gap behind a block of a document is not in any list. -/
theorem map_runOf_gap (kind : Kind) :
    ((Scope.below {} .document true).gap kind).map r.runOf = r.documentGap kind := by
  cases kind <;> rfl

/-- When a document succeeds, and what it shows then, found from its blocks. -/
theorem render_document_eq_ok_iff (blocks : List Tree) (out : StyledText) :
    (r.render (Tree.branch .document blocks).placed).result = .ok out ↔
      Node.heightAll blocks ≤ r.options.maxNestingDepth ∧
        (Node.checkpointsAll .document [.document] blocks).findSome? r.faultAt? = none ∧
          out.runs = (Node.piecesAll {} .document none 0 blocks).map r.runOf := by
  have hiff := r.render_eq_ok_iff (Tree.branch .document blocks) {} out
  have hheight : ((Tree.branch .document blocks).place [] false).height =
      Node.heightAll blocks := Node.height_place _ _ _
  have hpoints : (∀ c ∈ (Tree.branch .document blocks).checkpoints [] false, r.faultAt? c = none) ↔
      (Node.checkpointsAll .document [.document] blocks).findSome? r.faultAt? = none := by
    rw [← List.findSome?_eq_none_iff]
    rfl
  -- A document does nothing to the runs inside it.
  have hpieces : ((Tree.branch .document blocks).pieces {}).map r.runOf =
      (Node.piecesAll {} .document none 0 blocks).map r.runOf := by
    have hinside : (Tree.branch .document blocks).pieces {} =
        (Node.piecesAll {} .document none 0 blocks).map (Piece.inside .document) :=
      List.append_nil _
    rw [hinside, List.map_map]
    rfl
  rw [← hpoints, ← hpieces, ← hheight]
  exact hiff

/-- A document of the blocks of two documents succeeds if and only if both do, and shows what both
show with a gap in between. -/
theorem render_document_append {a b : List Tree} (ha : a ≠ []) (hb : b ≠ []) (out : StyledText) :
    (r.render (Tree.branch .document (a ++ b)).placed).result = .ok out ↔
      ∃ first second,
        (r.render (Tree.branch .document a).placed).result = .ok first ∧
        (r.render (Tree.branch .document b).placed).result = .ok second ∧
        out.runs = first.runs ++ r.documentGap (a.getLast ha).kind ++ second.runs := by
  obtain ⟨next, after, rfl⟩ := List.exists_cons_of_ne_nil hb
  -- Only the last block of the first document has something new after it.
  generalize hlast : a.getLast ha = last
  have hsplit : a = a.dropLast ++ [last] := by rw [← hlast, List.dropLast_concat_getLast]
  rw [hsplit]
  generalize a.dropLast = before
  have hheight := Node.heightAll_append (before ++ [last]) (next :: after)
  have hpieces := Node.piecesAll_document_append {} before last next after
  have hfaults := r.findSome?_checkpointsAll_append
    (show [Kind.document].length ≤ 10000 by decide) before last next after
  rw [render_document_eq_ok_iff, hheight, hfaults, hpieces, Option.or_eq_none_iff, List.map_append,
    List.map_append, map_runOf_gap]
  constructor
  · rintro ⟨hmax, ⟨hfirst, hsecond⟩, hruns⟩
    refine ⟨⟨_⟩, ⟨_⟩, (r.render_document_eq_ok_iff _ _).mpr ⟨?_, hfirst, rfl⟩,
      (r.render_document_eq_ok_iff _ _).mpr ⟨?_, hsecond, rfl⟩, hruns⟩
    · omega
    · omega
  · rintro ⟨first, second, hfirst, hsecond, hruns⟩
    obtain ⟨hheight₁, hnone₁, hruns₁⟩ := (r.render_document_eq_ok_iff _ _).mp hfirst
    obtain ⟨hheight₂, hnone₂, hruns₂⟩ := (r.render_document_eq_ok_iff _ _).mp hsecond
    refine ⟨?_, ⟨hnone₁, hnone₂⟩, ?_⟩
    · omega
    · rw [hruns, hruns₁, hruns₂]

end Renderer

/-- A document that ends with a list, one that begins with code, and both in a row. -/
theorem render_document_append_listCode :
    let list : Tree := .branch (.orderedList 1) [.branch (.listItem none) [
      .branch .paragraph [.text "b"], .branch .paragraph [.text "c"]]]
    let a : List Tree := [.branch .paragraph [.text "a"], list]
    let b : List Tree := [.leaf (.codeBlock "d" none), .branch .blockQuote []]
    a ≠ [] ∧ b ≠ [] ∧ ∃ out first second,
      ((Renderer.mk {} .fixed).render (Tree.branch .document (a ++ b)).placed).result = .ok out ∧
      ((Renderer.mk {} .fixed).render (Tree.branch .document a).placed).result = .ok first ∧
      ((Renderer.mk {} .fixed).render (Tree.branch .document b).placed).result = .ok second ∧
      out.runs = first.runs ++
        [⟨"\n\n", { font := .value (Renderer.mk {} .fixed).baseFont.value }⟩] ++ second.runs := by
  intro list a b
  have ha : a ≠ [] := List.cons_ne_nil _ _
  have hb : b ≠ [] := List.cons_ne_nil _ _
  obtain ⟨out, hout⟩ := Traced.exists_result_eq_ok
    (x := (Renderer.mk {} .fixed).render (Tree.branch .document (a ++ b)).placed)
    (by decide +kernel)
  obtain ⟨first, second, hfirst, hsecond, hruns⟩ :=
    (Renderer.render_document_append _ ha hb out).mp hout
  exact ⟨ha, hb, out, first, second, hout, hfirst, hsecond, hruns⟩

end RichText
