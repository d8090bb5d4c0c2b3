import RichText.Node.Basic

/-!
Walking over a tree in document order, and the plain text of a tree.
-/
namespace RichText

/-- The text that a leaf holds for a reader of plain text: literal text and code spans. -/
def Leaf.plainText : Leaf → String
  | .text content => content
  | .inlineCode code => code
  | _ => ""

namespace Node

variable {α : Type}

mutual

/-- A node and everything below it, parents before children and siblings in order. -/
def preorder : Node α → List (Node α)
  | leaf m l => [leaf m l]
  | branch m c ns => branch m c ns :: preorderAll ns

def preorderAll : List (Node α) → List (Node α)
  | [] => []
  | n :: ns => n.preorder ++ preorderAll ns

end

/-- Visits the nodes of a stack of pending trees: the one on top is taken off and reported, and its
children go on top in order. -/
def walkFrom : List (Node α) → List (Node α)
  | [] => []
  | n :: pending => n :: walkFrom (n.children ++ pending)
termination_by pending => sizeAll pending
decreasing_by
  have := n.size_eq_one_add
  simp only [sizeAll_append, sizeAll]
  omega

/-- The nodes of a tree, found with a stack of pending trees. -/
def walk (n : Node α) : List (Node α) := walkFrom [n]

mutual

/-- The plain text of a tree. Every child counts as a piece, also one without text. -/
def plainText (joiner : String) : Node α → String
  | leaf _ l => l.plainText
  | branch _ _ ns => joiner.intercalate (plainTexts joiner ns)

def plainTexts (joiner : String) : List (Node α) → List String
  | [] => []
  | n :: ns => n.plainText joiner :: plainTexts joiner ns

end

theorem preorderAll_eq (ns : List (Node α)) : preorderAll ns = ns.flatMap preorder := by
  induction ns with
  | nil => rfl
  | cons n ns ih => rw [preorderAll, ih, List.flatMap_cons]

theorem preorder_eq (n : Node α) : n.preorder = n :: n.children.flatMap preorder := by
  cases n with
  | leaf m l => rfl
  | branch m c ns => exact congrArg (List.cons _) (preorderAll_eq ns)

theorem plainTexts_eq (joiner : String) (ns : List (Node α)) :
    plainTexts joiner ns = ns.map (plainText joiner) := by
  induction ns with
  | nil => rfl
  | cons n ns ih => rw [plainTexts, ih, List.map_cons]

end Node

end RichText
