import RichText.Backend.Fixed
import RichText.Proofs.Render.Runs

/-! # Texts of a rendering

Restyling never touches a text, so the texts of the runs are the texts of the pieces: the contents
of the leaves, the markers and the gaps, as they are met on the way down. -/

namespace RichText

@[simp] theorem Run.text_addTraits (backend : Backend) (traits : Traits) (size : Option Float)
    (run : Run) : (run.addTraits backend traits size).text = run.text := by
  unfold addTraits
  split <;> rfl

namespace Renderer

variable (r : Renderer)

@[simp] theorem text_dress (c : Container) (run : Run) : (r.dress c run).text = run.text := by
  cases c with
  | link destination title =>
      simp only [dress]
      cases (r.linkTarget destination).value <;> rfl
  | _ => simp [dress, Run.set]

@[simp] theorem text_runOf (p : Piece) : (r.runOf p).text = p.origin.text r.options.bullet := by
  induction p with
  | bare o => rfl
  | inside c p ih =>
      rw [runOf_inside, text_dress, ih]
      rfl

/-- The texts of the runs of a node, wherever it stands in a tree, are those listed on the way down
to it and below it. -/
theorem texts_render {α : Type} (tree : Node α) (path : List Nat) {n : Node Place}
    {out : StyledText} (hn : tree.placed.at? path = some n) (h : (r.render n).result = .ok out) :
    out.runs.map (·.text) = (tree.piecesAt path).map (·.origin.text r.options.bullet) := by
  rw [(shows_render hn h).runs_eq, List.map_map]
  exact List.map_congr_left fun p _ => r.text_runOf p

end Renderer

/-- A list that starts at seven and has a child between its items that is no item. -/
def Tree.brokenList : Tree :=
  .branch (.orderedList 7) [
    .branch (.listItem none) [.branch .paragraph [.text "a"], .branch .paragraph [.text "b"]],
    .branch .paragraph [.text "lost"],
    .branch (.listItem none) [.branch .blockQuote [.branch .paragraph [.text "c"]]]]

def Tree.brokenListed : Tree :=
  .branch .document [Tree.brokenList, .branch .paragraph [.text "d"]]

/-- The list is rendered where it stands: the paragraph after it counts, and is not shown. -/
theorem texts_render_brokenList :
    Tree.brokenListed.placed.at? [0] = some (Tree.brokenList.place [.document] true) ∧
      ∃ out,
        ((Renderer.mk {} .fixed).render (Tree.brokenList.place [.document] true)).result = .ok out ∧
        out.runs.map (·.text) =
          ["\t1.\t", "a", "\n", "b", "\n", "\t2.\t", "\t", "c", "\n\n"] := by
  have hn : Tree.brokenListed.placed.at? [0] = some (Tree.brokenList.place [.document] true) := rfl
  obtain ⟨out, hout⟩ := Traced.exists_result_eq_ok
    (x := (Renderer.mk {} .fixed).render (Tree.brokenList.place [.document] true))
    (by decide +kernel)
  refine ⟨hn, out, hout, ?_⟩
  rw [Renderer.texts_render _ Tree.brokenListed [0] hn hout]
  decide

end RichText
