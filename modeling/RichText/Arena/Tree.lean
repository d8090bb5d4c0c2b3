import RichText.Arena.Family
import RichText.Node.Walk

/-!
The trees below the nodes of an arena. A node that is below itself has no tree.
-/
namespace RichText.Arena

variable (a : Arena)

/-- The tree below a node, if it has no more levels than asked for. -/
def unfold : (levels : Nat) → Ref → Option (Node Ref)
  | 0, _ => none
  | levels + 1, r =>
    match a.get? r with
    | none => none
    | some cell =>
      match cell.content with
      | .leaf l => some (.leaf r l)
      | .container c => (Node.branch r c ·) <$> cell.children.mapM (unfold levels)

/-- The tree below a node; without repetition no path is longer than there are nodes. -/
def tree? (r : Ref) : Option (Node Ref) := a.unfold a.cells.size r

def placed? (r : Ref) : Option (Node Place) := (a.tree? r).map (·.map a.place)

/-- A node and all below it in document order. -/
def walk (r : Ref) : List Ref := ((a.tree? r).map (·.walk.map (·.mark))).getD []

def plainText (joiner : String) (r : Ref) : String :=
  ((a.tree? r).map (·.plainText joiner)).getD ""

/-- Whether two nodes are the same, or trees of the same contents. -/
def areEqual (r s : Ref) : Bool :=
  r == s || match a.tree? r, a.tree? s with
    | some m, some n => m.map (fun _ => ()) == n.map (fun _ => ())
    | _, _ => false

end RichText.Arena
