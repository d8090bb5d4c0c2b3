import RichText.Arena.Basic
import RichText.Node.Place
import RichText.Render.Fault

/-!
Parents and siblings in an arena. A node finds its parent only while that one lasts, and goes by the
position it was attached at.
-/
namespace RichText.Arena

variable (a : Arena)

def parent? (r : Ref) : Option Ref :=
  ((a.get? r).bind (·.parent)).filter fun p => (a.get? p).isSome

/-- Whether more children come after a node's position below its parent. -/
def isFollowed (r : Ref) : Bool :=
  match a.get? r, a.parent? r with
  | some cell, some p => cell.index < (a.children p).length - (1 : Int)
  | _, _ => false

/-- The nearest nodes above a node, as many as asked for. -/
def aboveFrom : (count : Nat) → Ref → List Ref
  | 0, _ => []
  | count + 1, r =>
    match a.parent? r with
    | none => []
    | some p => p :: aboveFrom count p

/-- The nodes above a node, as far as anybody looks and one more. -/
def above (r : Ref) : List Ref := a.aboveFrom (Place.reach + 1) r

def place (r : Ref) : Place := ⟨(a.above r).filterMap a.kind?, a.isFollowed r⟩

/-- What a look at the nodes above a node finds, or the fault that they have no end. -/
def found {α : Type} (r : Ref) : Option α → Except RenderFault α
  | some x => .ok x
  | none => .error (.endlessAncestors ((a.kind? r).getD .document))

def ancestors (r : Ref) : Except RenderFault (List Ref) :=
  a.found r (if (a.above r).length ≤ Place.reach then some (a.above r) else none)

def listDepth (r : Ref) : Except RenderFault Nat := a.found r (a.place r).listDepth?

def quoteDepth (r : Ref) : Except RenderFault Nat := a.found r (a.place r).quoteDepth?

def isInList (r : Ref) : Except RenderFault Bool := a.found r (a.place r).inList?

def items (r : Ref) : List Ref := (a.children r).filter (a.kind? · = some .listItem)

end RichText.Arena
