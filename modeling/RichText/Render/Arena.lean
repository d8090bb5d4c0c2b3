import RichText.Arena.Tree
import RichText.Render.Basic

/-!
Rendering a node of an arena. First it has to be found to be a tree at all, and not too deep.
-/
namespace RichText

namespace Arena

variable (a : Arena)

/-- Takes pending nodes off a stack, last child first, and finds fault with one that was seen before
or is too deep. No node is taken off twice without a fault, so as many steps as there are nodes are
enough. -/
def checkFrom (limit : Int) : (steps : Nat) → (seen : List Ref) → (pending : List (Ref × Nat)) →
    Except RenderFault Unit
  | 0, _, _ => .ok ()
  | _, _, [] => .ok ()
  | steps + 1, seen, (r, depth) :: pending =>
    if seen.contains r then .error (.repeatedNode ((a.kind? r).getD .document))
    else if limit < depth then .error (.tooDeep limit)
    else
      checkFrom limit steps (r :: seen)
        ((a.children r).reverse.map (·, depth + 1) ++ pending)

/-- Whether the nodes below a node form a tree of no more levels than the limit. -/
def check (limit : Int) (r : Ref) : Except RenderFault Unit :=
  a.checkFrom limit (a.cells.size + 1) [] [(r, 0)]

end Arena

/-- The text of a node of an arena. -/
def Renderer.renderIn (r : Renderer) (a : Arena) (node : Ref) : Rendering StyledText := do
  a.check r.options.maxNestingDepth node
  match a.placed? node with
  | some n => r.finish n
  | none => throw (.repeatedNode ((a.kind? node).getD .document))

end RichText
