import RichText.Proofs.Render.Contents

/-! # Sources of a rendering

Each run comes from one node of the tree: content from its leaf, a marker from the list or quote it
belongs to, and a gap from the node it stands behind. Sources are listed on the way down, in the
order of the pieces, with the paths that lead to their nodes. -/

namespace RichText

/-- Where a run comes from, and the path to the node that it comes from. -/
structure RunSource where
  path : List Nat
  origin : Origin
deriving DecidableEq

def Piece.sources (here : List Nat) (ps : List Piece) : List RunSource :=
  ps.map fun p => ⟨here, p.origin⟩

theorem Piece.path_of_mem_sources {here : List Nat} {ps : List Piece} {x : RunSource}
    (hx : x ∈ Piece.sources here ps) : x.path = here := by
  obtain ⟨p, -, rfl⟩ := List.mem_map.mp hx
  rfl

theorem Piece.prefix_of_mem_sources {here : List Nat} {ps : List Piece} {x : RunSource}
    (hx : x ∈ Piece.sources here ps) : here <+: x.path :=
  (Piece.path_of_mem_sources hx).symm ▸ List.prefix_rfl

namespace Node

variable {α : Type}

theorem at?_append (n : Node α) (p q : List Nat) : n.at? (p ++ q) = (n.at? p).bind (·.at? q) := by
  induction p generalizing n with
  | nil => rfl
  | cons i p ih =>
      rw [List.cons_append, at?, at?]
      cases n.children[i]? with
      | none => rfl
      | some child => exact ih child

mutual

/-- The sources of the pieces of a node that a path leads to. -/
def sources (s : Scope) (here : List Nat) : Node α → List RunSource
  | leaf _ l => Piece.sources here l.pieces ++ Piece.sources here (s.gap l.kind)
  | branch _ c ns =>
    sourcesAll s c (c.mark? s ns.length) here 0 0 ns ++ Piece.sources here (s.gap c.kind)

/-- The sources of the children that a container shows, counting markers from `index` and children
from `position`. -/
def sourcesAll (s : Scope) (c : Container) (mark : Option Mark) (here : List Nat)
    (index position : Nat) : List (Node α) → List RunSource
  | [] => []
  | n :: ns =>
    if c.shows n.kind then
      Piece.sources here (Mark.pieces mark index) ++
        n.sources (s.below c.kind !ns.isEmpty) (here ++ [position]) ++
          sourcesAll s c mark here (index + 1) (position + 1) ns
    else sourcesAll s c mark here index (position + 1) ns

end

def allSources (root : Node α) : List RunSource := root.sources {} []

theorem map_origin_sourcesAll {s : Scope} {c : Container} {mark : Option Mark} {here : List Nat}
    {ns : List (Node α)} (ih : ∀ n ∈ ns, ∀ (s : Scope) (here : List Nat),
      (n.sources s here).map (·.origin) = (n.pieces s).map (·.origin)) (index position : Nat) :
    (sourcesAll s c mark here index position ns).map (·.origin) =
      (piecesAll s c mark index ns).map (·.origin) := by
  induction ns generalizing index position with
  | nil => rfl
  | cons n ns ihs =>
      have ihs := ihs fun m hm => ih m (List.mem_cons_of_mem n hm)
      rw [sourcesAll, piecesAll]
      split
      · simp only [List.map_append, ih n List.mem_cons_self, ihs, Piece.sources, List.map_map]
        rfl
      · exact ihs index (position + 1)

/-- There is one source for each piece, in the same order. -/
theorem map_origin_sources (n : Node α) (s : Scope) (here : List Nat) :
    (n.sources s here).map (·.origin) = (n.pieces s).map (·.origin) := by
  induction n generalizing s here with
  | leaf m l =>
      simp only [sources, pieces, Piece.sources, List.map_append, List.map_map]
      rfl
  | branch m c ns ih =>
      rw [sources, pieces, List.map_append, List.map_append, map_origin_sourcesAll ih,
        List.map_map, Piece.sources, List.map_map]
      rfl

/-- A source among the children is one of a marker, or one of a child at its own position. -/
theorem mem_sourcesAll {s : Scope} {c : Container} {mark : Option Mark} {here : List Nat}
    {index position : Nat} {ns : List (Node α)} {x : RunSource}
    (hx : x ∈ sourcesAll s c mark here index position ns) :
    (∃ j, x ∈ Piece.sources here (Mark.pieces mark j)) ∨
      ∃ (i : Nat) (n : Node α), ns[i]? = some n ∧
        ∃ s', x ∈ n.sources s' (here ++ [position + i]) := by
  induction ns generalizing index position with
  | nil => cases hx
  | cons n ns ih =>
      have hrest : ∀ {j}, x ∈ sourcesAll s c mark here j (position + 1) ns →
          (∃ j, x ∈ Piece.sources here (Mark.pieces mark j)) ∨
            ∃ (i : Nat) (m : Node α), (n :: ns)[i]? = some m ∧
              ∃ s', x ∈ m.sources s' (here ++ [position + i]) := by
        intro j hx
        rcases ih hx with hmark | ⟨i, m, hm, s', hx⟩
        · exact .inl hmark
        · refine .inr ⟨i + 1, m, hm, s', ?_⟩
          rwa [Nat.add_assoc, Nat.add_comm 1 i] at hx
      rw [sourcesAll] at hx
      split at hx
      · rcases List.mem_append.mp hx with hx | hx
        · rcases List.mem_append.mp hx with hx | hx
          · exact .inl ⟨index, hx⟩
          · exact .inr ⟨0, n, rfl, _, hx⟩
        · exact hrest hx
      · exact hrest hx

theorem prefix_path {n : Node α} {s : Scope} {here : List Nat} {x : RunSource}
    (hx : x ∈ n.sources s here) : here <+: x.path := by
  induction n generalizing s here with
  | leaf m l =>
      rcases List.mem_append.mp hx with hx | hx
      · exact Piece.prefix_of_mem_sources hx
      · exact Piece.prefix_of_mem_sources hx
  | branch m c ns ih =>
      rcases List.mem_append.mp hx with hx | hx
      · rcases mem_sourcesAll hx with ⟨j, hx⟩ | ⟨i, n, hn, s', hx⟩
        · exact Piece.prefix_of_mem_sources hx
        · exact (List.prefix_append _ _).trans (ih n (List.mem_of_getElem? hn) hx)
      · exact Piece.prefix_of_mem_sources hx

end Node

/-- A source shows content of a leaf, and is neither a marker nor a gap. -/
def RunSource.IsContent (x : RunSource) : Prop := x.origin.content?.isSome = true

instance (x : RunSource) : Decidable x.IsContent := inferInstanceAs (Decidable (_ = true))

theorem RunSource.not_isContent_gap {s : Scope} {kind : Kind} {here : List Nat} {x : RunSource}
    (hx : x ∈ Piece.sources here (s.gap kind)) : ¬ x.IsContent := by
  obtain ⟨p, hp, rfl⟩ := List.mem_map.mp hx
  intro hcontent
  have hnone := List.filterMap_eq_nil_iff.mp (Piece.contents_gap s kind) p hp
  simp [RunSource.IsContent, hnone] at hcontent

theorem RunSource.not_isContent_marker {mark : Option Mark} {index : Nat} {here : List Nat}
    {x : RunSource} (hx : x ∈ Piece.sources here (Mark.pieces mark index)) : ¬ x.IsContent := by
  obtain ⟨p, hp, rfl⟩ := List.mem_map.mp hx
  intro hcontent
  have hnone := List.filterMap_eq_nil_iff.mp (Piece.contents_marker mark index) p hp
  simp [RunSource.IsContent, hnone] at hcontent

/-- The path of a source of content leads to the leaf that has the content. -/
theorem Node.exists_leaf_of_mem_sources {α : Type} {root n : Node α} {s : Scope} {here : List Nat}
    {x : RunSource} {text : String} (hn : root.at? here = some n) (hx : x ∈ n.sources s here)
    (htext : x.origin.content? = some text) :
    ∃ m l, root.at? x.path = some (.leaf m l) ∧ l.contents = [text] := by
  have hcontent : x.IsContent := by rw [RunSource.IsContent, htext]; rfl
  induction n generalizing s here with
  | leaf m l =>
      rcases List.mem_append.mp hx with hx | hx
      · refine ⟨m, l, ?_, ?_⟩
        · rw [Piece.path_of_mem_sources hx, hn]
        · obtain ⟨p, hp, rfl⟩ := List.mem_map.mp hx
          cases l <;> simp_all [Leaf.pieces, Leaf.contents, Origin.content?]
      · exact (RunSource.not_isContent_gap hx hcontent).elim
  | branch m c ns ih =>
      rcases List.mem_append.mp hx with hx | hx
      · rcases mem_sourcesAll hx with ⟨j, hx⟩ | ⟨i, n, hchild, s', hx⟩
        · exact (RunSource.not_isContent_marker hx hcontent).elim
        · refine ih n (List.mem_of_getElem? hchild) ?_ hx
          rw [at?_append, hn, Option.bind_some, at?, children, Nat.zero_add, hchild]
          rfl
      · exact (RunSource.not_isContent_gap hx hcontent).elim

end RichText
