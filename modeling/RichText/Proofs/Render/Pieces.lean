import RichText.Proofs.Node.Scope

/-! # Pieces of a document

The pieces of a tree in document order, found on the way down from its root: what is shown of each
leaf, the markers before the children of lists and quotes, and the gaps behind blocks. A piece knows
where it comes from and which containers enclose it. Nothing here looks upwards in a tree, at fonts
or at attributes. -/

namespace RichText

/-- The markers of one container. Bullets and numbers know how many lists their own list is in, and
numbers how many children it has; the tabs of a quote know how many quotes it is in. -/
inductive Mark
  | bullet (depth : Nat)
  | number (depth children : Nat)
  | quote (depth : Nat)
deriving DecidableEq

/-- Where a run comes from. The markers of a container are counted from 0. -/
inductive Origin
  | literal (content : String)
  | code (code : String)
  | marker (mark : Mark) (index : Nat)
  | gap (text : String)
deriving DecidableEq

/-- What becomes one run: its origin and the containers around it, the outermost first. -/
structure Piece where
  origin : Origin
  within : List Container := []
deriving DecidableEq

def Mark.text (bullet : String) (index : Nat) : Mark → String
  | .bullet _ => "\t" ++ bullet ++ "\t"
  | .number _ _ => "\t" ++ toString (index + 1) ++ ".\t"
  | .quote _ => "\t"

def Origin.text (bullet : String) : Origin → String
  | .literal s => s
  | .code s => s
  | .marker m i => m.text bullet i
  | .gap s => s

/-- The piece with one more container around it. -/
def Piece.inside (c : Container) (p : Piece) : Piece := { p with within := c :: p.within }

/-- Every piece is put together from its origin and the containers around it, the innermost
first. -/
@[elab_as_elim, induction_eliminator]
theorem Piece.induct {motive : Piece → Prop} (bare : ∀ origin, motive { origin })
    (inside : ∀ c p, motive p → motive (p.inside c)) (p : Piece) : motive p := by
  obtain ⟨origin, within⟩ := p
  induction within with
  | nil => exact bare origin
  | cons c within ih => exact inside c ⟨origin, within⟩ ih

/-- What is shown of a leaf. -/
def Leaf.pieces : Leaf → List Piece
  | .text content => [{ origin := .literal content }]
  | .inlineCode code | .codeBlock code _ => [{ origin := .code code }]
  | _ => []

/-- The markers of a container, if it has any. -/
def Container.mark? (s : Scope) (children : Nat) : Container → Option Mark
  | .unorderedList => some (.bullet s.lists)
  | .orderedList _ => some (.number s.lists children)
  | .blockQuote => some (.quote s.quotes)
  | _ => none

/-- Of the children of a list only the items are shown. -/
def Container.shows (c : Container) (child : Kind) : Prop :=
  c.kind.isList = true → child = .listItem

instance (c : Container) (child : Kind) : Decidable (c.shows child) :=
  inferInstanceAs (Decidable (_ → _))

/-- What comes right behind a node when a sibling comes after it. -/
def Scope.gap (s : Scope) (kind : Kind) : List Piece :=
  if s.followed then
    match kind with
    | .codeBlock | .listItem => [{ origin := .gap "\n" }]
    | .heading | .unorderedList | .blockQuote => [{ origin := .gap "\n\n" }]
    | .paragraph | .orderedList =>
      [{ origin := .gap (if 0 < s.lists then "\n" else "\n\n") }]
    | _ => []
  else []

theorem Scope.origin_gap {s : Scope} {kind : Kind} {p : Piece} (hp : p ∈ s.gap kind) (m : Mark)
    (i : Nat) : p.origin ≠ .marker m i := by
  unfold Scope.gap at hp
  split at hp
  · split at hp <;> simp_all
  · cases hp

theorem Leaf.origin_pieces {l : Leaf} {p : Piece} (hp : p ∈ l.pieces) (m : Mark) (i : Nat) :
    p.origin ≠ .marker m i := by
  cases l <;> simp_all [Leaf.pieces]

def Mark.pieces (mark : Option Mark) (index : Nat) : List Piece :=
  (mark.map fun m => { origin := .marker m index }).toList

theorem Mark.mem_pieces_iff {mark : Option Mark} {i : Nat} {p : Piece} :
    p ∈ Mark.pieces mark i ↔ ∃ m ∈ mark, p = { origin := .marker m i } := by
  cases mark <;> simp [Mark.pieces]

namespace Node

variable {α : Type}

mutual

/-- The pieces of a node: those of its children inside it, and the gap behind it outside. -/
def pieces (s : Scope) : Node α → List Piece
  | leaf _ l => l.pieces ++ s.gap l.kind
  | branch _ c ns =>
    (piecesAll s c (c.mark? s ns.length) 0 ns).map (·.inside c) ++ s.gap c.kind

/-- The pieces of the children that a container shows, each behind its marker, counting from
`index`. -/
def piecesAll (s : Scope) (c : Container) (mark : Option Mark) (index : Nat) :
    List (Node α) → List Piece
  | [] => []
  | n :: ns =>
    if c.shows n.kind then
      Mark.pieces mark index ++ n.pieces (s.below c.kind !ns.isEmpty) ++
        piecesAll s c mark (index + 1) ns
    else piecesAll s c mark index ns

end

/-- A piece of the children is one of their markers or a piece of one of them. -/
theorem mem_piecesAll {s : Scope} {c : Container} {mark : Option Mark} {i : Nat}
    {ns : List (Node α)} {p : Piece} (hp : p ∈ piecesAll s c mark i ns) :
    (∃ j, p ∈ Mark.pieces mark j) ∨
      ∃ n ∈ ns, ∃ followed, p ∈ n.pieces (s.below c.kind followed) := by
  induction ns generalizing i with
  | nil => cases hp
  | cons n ns ih =>
      have hrest : ∀ {j}, p ∈ piecesAll s c mark j ns →
          (∃ j, p ∈ Mark.pieces mark j) ∨
            ∃ m ∈ n :: ns, ∃ followed, p ∈ m.pieces (s.below c.kind followed) := by
        intro j hp
        rcases ih hp with hmark | ⟨m, hm, hp⟩
        · exact .inl hmark
        · exact .inr ⟨m, List.mem_cons_of_mem n hm, hp⟩
      rw [piecesAll] at hp
      split at hp
      · rcases List.mem_append.mp hp with hp | hp
        · rcases List.mem_append.mp hp with hp | hp
          · exact .inl ⟨i, hp⟩
          · exact .inr ⟨n, List.mem_cons_self, _, hp⟩
        · exact hrest hp
      · exact hrest hp

def piecesAt (root : Node α) (path : List Nat) : List Piece :=
  match root.scoped? {} path with
  | some (s, n) => n.pieces s
  | none => []

end Node

end RichText
