import RichText.Node.Basic

/-!
Nodes under construction. They live in an arena, where each knows its children and may know a
parent, and some have names. A node lasts while it has a name or is a child of one that lasts.
-/
namespace RichText

structure Ref where
  index : Nat
deriving DecidableEq

/-- What a node is, its children aside. -/
inductive Content
  | leaf (l : Leaf)
  | container (c : Container)
deriving DecidableEq

def Content.kind : Content → Kind
  | leaf l => l.kind
  | container c => c.kind

/-- What an arena knows of a node. The parent is the node it was attached to, whether or not that
one still lasts, and the index is its position there when it was attached. -/
structure Cell where
  content : Content
  children : List Ref := []
  parent : Option Ref := none
  index : Int := 0

/-- An arena. Names are in the order in which they were first given. -/
structure Arena where
  cells : Array (Option Cell) := #[]
  names : List (String × Ref) := []

namespace Arena

def get? (a : Arena) (r : Ref) : Option Cell := a.cells[r.index]?.join

def kind? (a : Arena) (r : Ref) : Option Kind := (a.get? r).map (·.content.kind)

def children (a : Arena) (r : Ref) : List Ref := ((a.get? r).map (·.children)).getD []

def named? (a : Arena) (name : String) : Option Ref := a.names.lookup name

/-- The first of the names of a node. -/
def nameOf? (a : Arena) (r : Ref) : Option String := (a.names.find? (·.2 == r)).map (·.1)

def modify (a : Arena) (r : Ref) (f : Cell → Cell) : Arena :=
  { a with cells := a.cells.modify r.index (·.map f) }

def alloc (a : Arena) (cell : Cell) : Ref × Arena :=
  (⟨a.cells.size⟩, { a with cells := a.cells.push (some cell) })

def erase (a : Arena) (r : Ref) : Arena :=
  { a with cells := a.cells.modify r.index fun _ => none }

/-! ### Lasting -/

/-- How many times each node has a name or is a child. -/
def holders (a : Arena) : Array Nat :=
  let hold (counts : Array Nat) (r : Ref) := counts.modify r.index (· + 1)
  let counts := Array.replicate a.cells.size 0
  let counts := a.names.foldl (fun counts entry => hold counts entry.2) counts
  a.cells.foldl (fun counts cell => (cell.elim [] (·.children)).foldl hold counts) counts

/-- Ends the pending nodes, and after them all that loses its last hold with them. Each node ends
once, so as many steps as there are nodes are enough. -/
def sweepFrom (a : Arena) : (steps : Nat) → (pending : List Ref) → (counts : Array Nat) → Arena
  | 0, _, _ => a
  | _, [], _ => a
  | steps + 1, r :: pending, counts =>
    let (counts, freed) := (a.children r).foldl (fun (counts, freed) child =>
      let counts := counts.modify child.index (· - 1)
      (counts, if counts[child.index]? = some 0 then child :: freed else freed)) (counts, [])
    (a.erase r).sweepFrom steps (freed ++ pending) counts

/-- Ends all nodes that nothing holds. -/
def sweep (a : Arena) : Arena :=
  let counts := a.holders
  let free := (List.range a.cells.size).filterMap fun i =>
    if counts[i]? = some 0 && (a.get? ⟨i⟩).isSome then some ⟨i⟩ else none
  a.sweepFrom a.cells.size free counts

/-- Gives a node a name. A name given before keeps its place among the names. -/
def setName (a : Arena) (name : String) (r : Ref) : Arena :=
  let names := if (a.names.lookup name).isSome then
      a.names.map fun entry => if entry.1 = name then (name, r) else entry
    else a.names ++ [(name, r)]
  { a with names }.sweep

def dropName (a : Arena) (name : String) : Arena :=
  { a with names := a.names.filter (·.1 != name) }.sweep

end Arena

end RichText
