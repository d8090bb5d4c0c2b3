import RichText.Node.Place
import RichText.Decimal.Ceiling

/-!
Why a tree cannot be rendered.
-/
namespace RichText

inductive RenderFault
  | tooDeep (limit : Int)
  | repeatedNode (kind : Kind)
  | endlessAncestors (kind : Kind)
  | width (cause : Decimal.Unbounded)
deriving DecidableEq

/-- The stages of rendering that find fault with a tree. -/
inductive RenderStage
  | structureCheck
  | ancestorWalk
deriving DecidableEq

namespace RenderFault

/-- The stage that finds a fault, for faults of the tree. -/
def stage? : RenderFault → Option RenderStage
  | tooDeep _ | repeatedNode _ => some .structureCheck
  | endlessAncestors _ => some .ancestorWalk
  | width _ => none

def message : RenderFault → String
  | tooDeep limit => "Tree nesting exceeds max_nesting_depth (" ++ toString limit ++ ")"
  | repeatedNode kind => kind.name ++ " node appears more than once in the tree"
  | endlessAncestors kind =>
    "Parent chain of " ++ kind.name ++ " exceeds " ++ toString Place.reach ++
      " nodes; the tree is cyclic"
  | width .notANumber => "cannot convert float NaN to integer"
  | width .infinite => "cannot convert float infinity to integer"

end RenderFault

end RichText
