import RichText.Arena.Family
import RichText.Node.Build

/-!
Making nodes in an arena. A container adopts its children one after the other; where it fails, those
adopted so far keep the position they were given, and are left without a parent.
-/
namespace RichText.Arena

/-- Attaches a node to a parent at a position, if it is not attached to another one. -/
def attach (a : Arena) (child parent : Ref) (index : Int) : Except BuildFault Arena :=
  let attached := a.modify child fun cell => { cell with parent := some parent, index }
  match a.parent? child with
  | none => .ok attached
  | some current =>
    if current = parent then .ok attached
    else .error (.attached ((a.kind? child).getD .document) ((a.kind? current).getD .document))

/-- Attaches all that is offered, from a position on. What was attached before a fault stays. -/
def adopt (a : Arena) (parent : Ref) (index : Nat) :
    List (Offer Ref) → Arena × Except BuildFault Unit
  | [] => (a, .ok ())
  | .foreign type :: _ =>
    (a, .error (.foreignChild ((a.kind? parent).getD .document) type))
  | .node child :: rest =>
    match a.attach child parent index with
    | .error fault => (a, .error fault)
    | .ok a => a.adopt parent (index + 1) rest

def makeLeaf (a : Arena) (l : Leaf) : Ref × Arena := a.alloc { content := .leaf l }

/-- A new container of what is offered. -/
def make (a : Arena) (blueprint : Blueprint) (offers : List (Offer Ref)) :
    Arena × Except BuildFault Ref :=
  match blueprint.check with
  | .error fault => (a, .error fault)
  | .ok container =>
    let children := offers.filterMap fun
      | .node r => some r
      | .foreign _ => none
    let (parent, a) := a.alloc { content := .container container, children }
    match a.adopt parent 0 offers with
    | (a, .ok ()) => (a, .ok parent)
    | (a, .error fault) => (a.erase parent, .error fault)

/-- Puts a node into as many containers as asked for, one in the other. -/
def wrap (a : Arena) (blueprint : Blueprint) : (count : Nat) → Ref → Arena × Except BuildFault Ref
  | 0, r => (a, .ok r)
  | count + 1, r =>
    match a.make blueprint [.node r] with
    | (a, .ok parent) => a.wrap blueprint count parent
    | (a, .error fault) => (a, .error fault)

/-- Puts a node behind the children of another without attaching it. -/
def append (a : Arena) (r child : Ref) : Arena :=
  a.modify r fun cell => { cell with children := cell.children ++ [child] }

def remove (a : Arena) (r : Ref) (position : Nat) : Arena :=
  (a.modify r fun cell => { cell with children := cell.children.eraseIdx position }).sweep

end RichText.Arena
