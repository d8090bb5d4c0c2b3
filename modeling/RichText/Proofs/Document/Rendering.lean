import RichText.Proofs.Document.Sources
import RichText.Proofs.Markdown.Nesting
import RichText.Proofs.Render.Faults

/-! # Texts that can be rendered

Every text has a document, whatever tokens it is read as. It can be rendered unless it is too deep
for the settings. With the settings that count where none are given, quotes and lists alone do not
make it so if a tokenizer lets no more than 20 of them stand one in the other: it takes running text
with more than 87 levels in it. Images in the labels of images go that far. -/

namespace RichText

namespace Renderer

variable {r : Renderer}

/-- The labels of lists have a width: the bullet, and the number of an item, however high. -/
structure MeasuresLabels (r : Renderer) : Prop where
  bullet : (r.backend.measure r.options.bullet r.baseFont.value).value.isFinite = true
  number : ∀ n : Nat,
    (r.backend.measure (toString n ++ ".") r.numeralFont.value).value.isFinite = true

theorem MeasuresLabels.faultAt?_eq_none (h : r.MeasuresLabels) {c : Checkpoint}
    (hc : c.above.length ≤ 10000) : r.faultAt? c = none := by
  rw [r.faultAt?_of_near hc]
  obtain ⟨kind, above, followed, children⟩ := c
  cases kind with
  | unorderedList => exact (widthFault?_eq_none_iff _).mpr h.bullet
  | orderedList => exact (widthFault?_eq_none_iff _).mpr (h.number children)
  | _ => rfl

/-- Where all labels have a width, depth is all that a rendering can fail on. -/
theorem MeasuresLabels.fault?_render (h : r.MeasuresLabels)
    (hdepth : r.options.maxNestingDepth ≤ 10000) (tree : Tree) :
    (r.render tree.placed).fault? =
      if r.options.maxNestingDepth < tree.height then some (.tooDeep r.options.maxNestingDepth)
      else none := by
  have hroot : tree.placed.at? [] = some tree.placed := rfl
  have hheight : tree.placed.height = tree.height := tree.height_place [] false
  rw [r.fault?_render_of_at? hroot, hheight]
  split
  · rfl
  · rename_i hlow
    rw [List.findSome?_eq_none_iff]
    intro c hc
    -- No more nodes are above a checkpoint than the tree has levels, so all of them are in reach.
    have habove := Node.length_above_le_of_at? hroot hc
    rw [hheight, List.length_nil] at habove
    exact h.faultAt?_eq_none (by omega)

end Renderer

/-- A backend in whose fonts all texts are equally wide. -/
def Backend.even : Backend := { Backend.fixed with measure := fun _ _ => pure 7.5 }

namespace Markdown

/-- A text between marks that make it strong twenty times over. -/
def strong (s : List Char) : List Char :=
  let marks := List.replicate 40 '*'
  marks ++ s ++ marks

/-- An image with a text as its label. -/
def image (label : List Char) : List Char := "![".toList ++ label ++ "](u)".toList

end Markdown

end RichText
