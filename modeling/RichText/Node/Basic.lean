import RichText.Node.Kind

/-!
Document trees. A node is a leaf or a container of nodes; each carries a mark, which says where the
node stands or what it is called, and is trivial in a plain tree.
-/
namespace RichText

/-- The rank of a heading, from 1 for the most important to 6. -/
structure HeadingLevel where
  val : Nat
  one_le : 1 ≤ val := by decide
  le_six : val ≤ 6 := by decide
deriving DecidableEq

namespace HeadingLevel

def top : HeadingLevel := { val := 1 }

def ofInt? (level : Int) : Option HeadingLevel :=
  if h : 1 ≤ level ∧ level ≤ 6 then
    some { val := level.toNat, one_le := by omega, le_six := by omega }
  else none

theorem ofInt?_eq_some_iff (level : Int) (l : HeadingLevel) :
    ofInt? level = some l ↔ level = l.val := by
  obtain ⟨n, h₁, h₆⟩ := l
  by_cases h : 1 ≤ level ∧ level ≤ 6
  · simp only [ofInt?, h, and_self, dite_true, Option.some.injEq, HeadingLevel.mk.injEq]
    omega
  · simp only [ofInt?, h, dite_false, reduceCtorEq, false_iff]
    omega

end HeadingLevel

inductive Task
  | checked
  | unchecked
deriving DecidableEq

/-- The contents of a node without children. -/
inductive Leaf
  | text (content : String)
  | inlineCode (code : String)
  | codeBlock (code : String) (language : Option String)
  | htmlBlock (html : String)
  | inlineHtml (html : String)
  | thematicBreak
  | lineBreak
  | softBreak
deriving DecidableEq

/-- What a node with children is. The number a list starts at, a task's state and the titles are
kept for readers of the tree. -/
inductive Container
  | document
  | paragraph
  | heading (level : HeadingLevel)
  | blockQuote
  | unorderedList
  | orderedList (start : Int)
  | listItem (task : Option Task)
  | emphasis
  | strong
  | strikethrough
  | link (destination title : Option String)
  | image (source title : Option String)
deriving DecidableEq

def Leaf.kind : Leaf → Kind
  | text _ => .text
  | inlineCode _ => .inlineCode
  | codeBlock _ _ => .codeBlock
  | htmlBlock _ => .htmlBlock
  | inlineHtml _ => .inlineHtml
  | thematicBreak => .thematicBreak
  | lineBreak => .lineBreak
  | softBreak => .softBreak

def Container.kind : Container → Kind
  | document => .document
  | paragraph => .paragraph
  | heading _ => .heading
  | blockQuote => .blockQuote
  | unorderedList => .unorderedList
  | orderedList _ => .orderedList
  | listItem _ => .listItem
  | emphasis => .emphasis
  | strong => .strong
  | strikethrough => .strikethrough
  | link _ _ => .link
  | image _ _ => .image

/-- A node with a mark on it and on everything below. -/
inductive Node (α : Type)
  | leaf (mark : α) (content : Leaf)
  | branch (mark : α) (container : Container) (children : List (Node α))
deriving BEq

/-- A tree without marks. -/
abbrev Tree := Node Unit

namespace Node

variable {α β : Type}

def mark : Node α → α
  | leaf m _ => m
  | branch m _ _ => m

def kind : Node α → Kind
  | leaf _ l => l.kind
  | branch _ c _ => c.kind

def children : Node α → List (Node α)
  | leaf _ _ => []
  | branch _ _ ns => ns

mutual

def map (f : α → β) : Node α → Node β
  | leaf m l => leaf (f m) l
  | branch m c ns => branch (f m) c (mapAll f ns)

def mapAll (f : α → β) : List (Node α) → List (Node β)
  | [] => []
  | n :: ns => n.map f :: mapAll f ns

end

mutual

/-- The number of nodes. -/
def size : Node α → Nat
  | leaf _ _ => 1
  | branch _ _ ns => 1 + sizeAll ns

def sizeAll : List (Node α) → Nat
  | [] => 0
  | n :: ns => n.size + sizeAll ns

end

mutual

def height : Node α → Nat
  | leaf _ _ => 0
  | branch _ _ ns => heightAll ns

def heightAll : List (Node α) → Nat
  | [] => 0
  | n :: ns => max (n.height + 1) (heightAll ns)

end

/-- The node at the end of a path of child positions. -/
def at? (n : Node α) : List Nat → Option (Node α)
  | [] => some n
  | i :: path => n.children[i]?.bind (·.at? path)

theorem mapAll_eq (f : α → β) (ns : List (Node α)) : mapAll f ns = ns.map (map f) := by
  induction ns with
  | nil => rfl
  | cons n ns ih => simp [mapAll, ih]

theorem sizeAll_append (ns ms : List (Node α)) : sizeAll (ns ++ ms) = sizeAll ns + sizeAll ms := by
  induction ns with
  | nil => simp [sizeAll]
  | cons n ns ih => simp [sizeAll, ih]; omega

theorem size_eq_one_add (n : Node α) : n.size = 1 + sizeAll n.children := by
  cases n <;> simp [size, sizeAll, children]

end Node

namespace Tree

def leaf (l : Leaf) : Tree := Node.leaf () l

def branch (c : Container) (children : List Tree) : Tree := Node.branch () c children

def text (content : String) : Tree := leaf (.text content)

end Tree

end RichText
