import RichText.Node.Basic

/-!
Where a node stands: what is above it and whether a sibling follows. Depths are counted upwards from
the node, and only so far up.
-/
namespace RichText

/-- The surroundings of a node. The kinds of the nodes above it come nearest first; of those beyond
the farthest that is ever looked at, any number may be left out, but not all. -/
structure Place where
  above : List Kind := []
  followed : Bool := false
deriving DecidableEq

namespace Place

/-- How many nodes above a node are looked at; there are more only where trees are endless. -/
def reach : Nat := 10000

/-- The kinds of all nodes above a node, if they are within reach. -/
def ancestors? (p : Place) : Option (List Kind) :=
  if p.above.length ≤ reach then some p.above else none

/-- How many of the nodes above a node are of some kinds. -/
def depthIn? (p : Place) (counts : Kind → Bool) : Option Nat :=
  p.ancestors?.map (·.countP counts)

def listDepth? (p : Place) : Option Nat := p.depthIn? Kind.isList

def quoteDepth? (p : Place) : Option Nat := p.depthIn? (· = .blockQuote)

/-- Whether a node is in a list. The search ends at the first list. -/
def inList? (p : Place) : Option Bool :=
  if (p.above.take reach).any (·.isList) then some true
  else p.ancestors?.map fun _ => false

end Place

namespace Node

variable {α : Type}

mutual

/-- A tree with its nodes marked by their places, below nodes of the given kinds. -/
def place (above : List Kind) (followed : Bool) : Node α → Node Place
  | leaf _ l => leaf ⟨above, followed⟩ l
  | branch _ c ns => branch ⟨above, followed⟩ c (placeAll (c.kind :: above) ns)

/-- Sibling trees with their nodes marked by their places; none follows the last. -/
def placeAll (above : List Kind) : List (Node α) → List (Node Place)
  | [] => []
  | n :: ns => n.place above (!ns.isEmpty) :: placeAll above ns

end

/-- A whole tree with its nodes marked by their places. -/
def placed (n : Node α) : Node Place := n.place [] false

end Node

end RichText
