import RichText.Node.Basic

/-!
Putting trees together from parts that have not been checked: the rank of a heading may be out of
range, and what is offered as a child may be no node at all.
-/
namespace RichText

inductive BuildFault
  | levelOutOfRange (level : Int)
  | foreignChild (parent : Kind) (type : String)
  | attached (node parent : Kind)
deriving DecidableEq

def BuildFault.message : BuildFault → String
  | levelOutOfRange level => "Heading level must be 1-6, got " ++ toString level
  | foreignChild parent type => parent.name ++ " children must be Node instances, got " ++ type
  | attached node parent => node.name ++ " node is already attached to a " ++ parent.name

/-- The rank of a number, which must be one. -/
def HeadingLevel.ofInt (level : Int) : Except BuildFault HeadingLevel :=
  match ofInt? level with
  | some l => .ok l
  | none => .error (.levelOutOfRange level)

/-- What a new container is to be. -/
inductive Blueprint
  | heading (level : Int)
  | container (c : Container)
deriving DecidableEq

/-- The container of a blueprint. -/
def Blueprint.check : Blueprint → Except BuildFault Container
  | heading level => .heading <$> HeadingLevel.ofInt level
  | container c => .ok c

/-- What is offered as a child: a node, or a thing of some other type. -/
inductive Offer (α : Type)
  | node (n : α)
  | foreign (type : String)

/-- The nodes offered to a container, if nothing else is offered. -/
def Offer.nodes {α : Type} (parent : Kind) : List (Offer α) → Except BuildFault (List α)
  | [] => .ok []
  | .foreign type :: _ => .error (.foreignChild parent type)
  | .node n :: rest => (n :: ·) <$> nodes parent rest

inductive Draft
  | leaf (content : Leaf)
  | branch (blueprint : Blueprint) (children : List (Offer Draft))

namespace Draft

mutual

/-- The tree of a draft. Children are built first and in order; then the container itself is
checked, and last what it was offered. -/
def build : Draft → Except BuildFault Tree
  | leaf l => .ok (.leaf l)
  | branch blueprint offers => do
    let offers ← buildAll offers
    let container ← blueprint.check
    let children ← Offer.nodes container.kind offers
    return .branch container children

def buildOffer : Offer Draft → Except BuildFault (Offer Tree)
  | .foreign type => .ok (.foreign type)
  | .node d => do return .node (← build d)

def buildAll : List (Offer Draft) → Except BuildFault (List (Offer Tree))
  | [] => .ok []
  | o :: os => do
    let tree ← buildOffer o
    let trees ← buildAll os
    return tree :: trees

end

end Draft

end RichText
