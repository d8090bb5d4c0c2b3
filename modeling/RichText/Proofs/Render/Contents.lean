import RichText.Proofs.Render.Texts

/-! # Contents of a rendering

Markers and gaps aside, a tree shows the contents of its leaves, in document order. -/

namespace RichText

/-- What a run shows of a leaf. Markers and gaps show nothing of one. -/
def Origin.content? : Origin → Option String
  | literal s | code s => some s
  | marker _ _ | gap _ => none

/-- The literal text of a leaf. -/
def Leaf.contents : Leaf → List String
  | .text content => [content]
  | .inlineCode code | .codeBlock code _ => [code]
  | _ => []

namespace Node

variable {α : Type}

mutual

/-- The literal texts below a node that are shown, in order. -/
def contents : Node α → List String
  | leaf _ l => l.contents
  | branch _ c ns => contentsAll c ns

def contentsAll (c : Container) : List (Node α) → List String
  | [] => []
  | n :: ns => if c.shows n.kind then n.contents ++ contentsAll c ns else contentsAll c ns

end

/-- Containers other than lists show all their children. -/
theorem contentsAll_eq_flatMap {c : Container} (hc : c.kind.isList = false) (ns : List (Node α)) :
    contentsAll c ns = ns.flatMap contents := by
  induction ns with
  | nil => rfl
  | cons n ns ih =>
      have hshow : c.shows n.kind := fun hlist => absurd hlist (by simp [hc])
      rw [contentsAll, if_pos hshow, ih, List.flatMap_cons]

end Node

def Piece.contents (ps : List Piece) : List String := ps.filterMap (·.origin.content?)

namespace Piece

@[simp] theorem contents_append (ps qs : List Piece) :
    contents (ps ++ qs) = contents ps ++ contents qs :=
  List.filterMap_append

@[simp] theorem contents_map_inside (c : Container) (ps : List Piece) :
    contents (ps.map (·.inside c)) = contents ps := by
  rw [contents, List.filterMap_map]
  rfl

@[simp] theorem contents_gap (s : Scope) (kind : Kind) : contents (s.gap kind) = [] := by
  unfold Scope.gap
  split
  · split <;> simp [contents, Origin.content?]
  · rfl

@[simp] theorem contents_marker (mark : Option Mark) (index : Nat) :
    contents (Mark.pieces mark index) = [] := by
  cases mark <;> simp [contents, Mark.pieces, Origin.content?]

@[simp] theorem contents_leaf (l : Leaf) : contents l.pieces = l.contents := by
  cases l <;> simp [contents, Leaf.pieces, Leaf.contents, Origin.content?]

variable {α : Type}

theorem contents_piecesAll {s : Scope} {c : Container} {mark : Option Mark} {ns : List (Node α)}
    (ih : ∀ n ∈ ns, ∀ s, contents (n.pieces s) = n.contents) (index : Nat) :
    contents (Node.piecesAll s c mark index ns) = Node.contentsAll c ns := by
  induction ns generalizing index with
  | nil => rfl
  | cons n ns ihs =>
      have ihs := ihs fun m hm => ih m (List.mem_cons_of_mem n hm)
      rw [Node.piecesAll, Node.contentsAll]
      split
      · rw [contents_append, contents_append, contents_marker, ih n List.mem_cons_self, ihs,
          List.nil_append]
      · exact ihs index

/-- Wherever a node stands, its pieces show the contents below it. -/
theorem contents_pieces (n : Node α) (s : Scope) : contents (n.pieces s) = n.contents := by
  induction n generalizing s with
  | leaf m l => simp [Node.pieces, Node.contents]
  | branch m c ns ih =>
      rw [Node.pieces, contents_append, contents_map_inside, contents_gap, List.append_nil,
        contents_piecesAll ih, Node.contents]

end Piece

/-- The pieces of a whole tree show the contents of its leaves. -/
theorem Node.contents_piecesAt_root {α : Type} (root : Node α) :
    Piece.contents (root.piecesAt []) = root.contents :=
  Piece.contents_pieces root {}

namespace Renderer

variable (r : Renderer)

/-- The runs of pieces with contents have these contents as their texts. -/
theorem texts_contents (ps : List Piece) :
    ((ps.zip (ps.map r.runOf)).filter (·.1.origin.content?.isSome)).map (·.2.text) =
      Piece.contents ps := by
  induction ps with
  | nil => rfl
  | cons p ps ih =>
      rw [List.map_cons, List.zip_cons_cons, List.filter_cons]
      cases horigin : p.origin <;>
        simp [Piece.contents, Origin.content?, Origin.text, horigin] <;> exact ih

/-- Of the runs of a node, those that are neither markers nor gaps show the contents of its
pieces. -/
theorem texts_contents_render {α : Type} {tree : Node α} {path : List Nat} {n : Node Place}
    {out : StyledText} (hn : tree.placed.at? path = some n) (h : (r.render n).result = .ok out) :
    (((tree.piecesAt path).zip out.runs).filter (·.1.origin.content?.isSome)).map (·.2.text) =
      Piece.contents (tree.piecesAt path) := by
  rw [(shows_render hn h).runs_eq, r.texts_contents]

end Renderer

end RichText
