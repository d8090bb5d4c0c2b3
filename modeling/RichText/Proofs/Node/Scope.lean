import RichText.Node.Place
import RichText.Proofs.Node.Induction

/-! # Scopes

What a node has above it can be counted on the way down from the root as well as upwards from the
node. A scope holds what is counted on the way down, and both counts agree wherever the upward count
comes to an end. -/

namespace RichText

/-- What is known of a node on the way down to it: the lists and the quotes it is in, and whether a
sibling comes after it. -/
structure Scope where
  lists : Nat := 0
  quotes : Nat := 0
  followed : Bool := false
deriving DecidableEq

namespace Scope

/-- The scope of a child of a node of some kind. -/
def below (s : Scope) (kind : Kind) (followed : Bool) : Scope where
  lists := if kind.isList then s.lists + 1 else s.lists
  quotes := if kind = .blockQuote then s.quotes + 1 else s.quotes
  followed := followed

end Scope

namespace Place

/-- The scope that belongs to a place. -/
def scope (p : Place) : Scope where
  lists := p.above.countP Kind.isList
  quotes := p.above.countP (· = .blockQuote)
  followed := p.followed

theorem scope_cons (kind : Kind) (above : List Kind) (before after : Bool) :
    (⟨kind :: above, after⟩ : Place).scope = (⟨above, before⟩ : Place).scope.below kind after := by
  simp only [scope, Scope.below, List.countP_cons, decide_eq_true_eq, Scope.mk.injEq, and_true]
  constructor <;> split <;> rfl

theorem eq_countP_of_depthIn? {p : Place} {counts : Kind → Bool} {depth : Nat}
    (h : p.depthIn? counts = some depth) : depth = p.above.countP counts := by
  unfold depthIn? ancestors? at h
  split at h
  · exact (Option.some.inj h).symm
  · cases h

/-- The lists found by looking upwards are those counted on the way down. -/
theorem lists_of_listDepth? {p : Place} {depth : Nat} (h : p.listDepth? = some depth) :
    p.scope.lists = depth :=
  (eq_countP_of_depthIn? h).symm

/-- The quotes found by looking upwards are those counted on the way down. -/
theorem quotes_of_quoteDepth? {p : Place} {depth : Nat} (h : p.quoteDepth? = some depth) :
    p.scope.quotes = depth :=
  (eq_countP_of_depthIn? h).symm

/-- The search for a list ends at the first one, so its answer holds of all that is above. -/
theorem inList?_eq_some {p : Place} {b : Bool} (h : p.inList? = some b) :
    b = decide (0 < p.scope.lists) := by
  unfold inList? at h
  split at h
  · rename_i hany
    obtain ⟨kind, hmem, hlist⟩ := List.any_eq_true.mp hany
    have hpos : 0 < p.scope.lists :=
      List.countP_pos_iff.mpr ⟨kind, List.mem_of_mem_take hmem, hlist⟩
    cases h
    exact (decide_eq_true hpos).symm
  · rename_i hany
    unfold ancestors? at h
    split at h
    · rename_i hlength
      -- All of the nodes above are within reach, so none of them is a list.
      rw [List.take_of_length_le hlength] at hany
      have hzero : p.scope.lists = 0 := by
        apply List.countP_eq_zero.mpr
        intro kind hmem hlist
        exact hany (List.any_eq_true.mpr ⟨kind, hmem, hlist⟩)
      cases h
      simp [hzero]
    · cases h

end Place

namespace Node

variable {α : Type}

/-- The node at the end of a path of child positions and its scope, from the scope of the root. -/
def scoped? (s : Scope) (n : Node α) : List Nat → Option (Scope × Node α)
  | [] => some (s, n)
  | i :: path =>
    n.children[i]?.bind fun m => m.scoped? (s.below n.kind (i + 1 < n.children.length)) path

def kindsAbove (n : Node α) : List Nat → List Kind
  | [] => []
  | i :: path => n.kind :: (n.children[i]?.elim [] (·.kindsAbove path))

theorem length_kindsAbove_le (n : Node α) (path : List Nat) :
    (n.kindsAbove path).length ≤ path.length := by
  induction path generalizing n with
  | nil => exact Nat.le_refl 0
  | cons i path ih =>
      rw [kindsAbove, List.length_cons, List.length_cons]
      cases n.children[i]? with
      | none => exact Nat.succ_le_succ (Nat.zero_le _)
      | some child => exact Nat.succ_le_succ (ih child)

/-- A scope counts the lists and the quotes that are passed on the way down. -/
theorem scoped?_counts {path : List Nat} {n m : Node α} {s s' : Scope}
    (h : n.scoped? s path = some (s', m)) :
    s'.lists = s.lists + (n.kindsAbove path).countP Kind.isList ∧
      s'.quotes = s.quotes + (n.kindsAbove path).countP (· = .blockQuote) := by
  induction path generalizing n s with
  | nil =>
      cases h
      exact ⟨rfl, rfl⟩
  | cons i path ih =>
      rw [scoped?] at h
      obtain ⟨child, hchild, hscoped⟩ := Option.bind_eq_some_iff.mp h
      obtain ⟨hlists, hquotes⟩ := ih hscoped
      rw [hlists, hquotes]
      simp only [kindsAbove, hchild, Option.elim_some, List.countP_cons, Scope.below,
        decide_eq_true_eq]
      constructor
      · split <;> omega
      · split <;> omega

@[simp] theorem kind_place (n : Node α) (above : List Kind) (followed : Bool) :
    (n.place above followed).kind = n.kind := by
  cases n <;> rfl

theorem getElem?_placeAll (ns : List (Node α)) (above : List Kind) (i : Nat) :
    (placeAll above ns)[i]? = ns[i]?.map (·.place above (i + 1 < ns.length)) := by
  induction ns generalizing i with
  | nil => rfl
  | cons n ns ih =>
      cases i with
      | zero => cases ns <;> simp [placeAll]
      | succ i => simp [placeAll, ih]

@[simp] theorem length_placeAll (ns : List (Node α)) (above : List Kind) :
    (placeAll above ns).length = ns.length := by
  induction ns with
  | nil => rfl
  | cons n ns ih => simp [placeAll, ih]

theorem children_place (n : Node α) (above : List Kind) (followed : Bool) :
    (n.place above followed).children = placeAll (n.kind :: above) n.children := by
  cases n <;> rfl

/-- Every node of a tree has a place. -/
theorem exists_at?_place {path : List Nat} {n m : Node α} (h : n.at? path = some m)
    (above : List Kind) (followed : Bool) :
    ∃ q : Place, (n.place above followed).at? path = some (m.place q.above q.followed) := by
  induction path generalizing n above followed with
  | nil =>
      cases h
      exact ⟨⟨above, followed⟩, rfl⟩
  | cons i path ih =>
      obtain ⟨child, hchild, hm⟩ := Option.bind_eq_some_iff.mp h
      obtain ⟨q, hq⟩ := ih hm (n.kind :: above) (i + 1 < n.children.length)
      refine ⟨q, ?_⟩
      rw [at?, children_place, getElem?_placeAll, hchild]
      exact hq

/-- Whatever stands at the end of a path in a placed tree is a node of the tree itself, placed where
the way down to it leads. -/
theorem exists_scoped?_of_at?_place {path : List Nat} {n : Node α} {p : Place} {m : Node Place}
    (h : (n.place p.above p.followed).at? path = some m) :
    ∃ (q : Place) (n' : Node α),
      m = n'.place q.above q.followed ∧ n.scoped? p.scope path = some (q.scope, n') ∧
        q.above = (n.kindsAbove path).reverse ++ p.above := by
  induction path generalizing n p with
  | nil => exact ⟨p, n, (Option.some.inj h).symm, rfl, rfl⟩
  | cons i path ih =>
      rw [at?, children_place, getElem?_placeAll] at h
      cases hchild : n.children[i]? with
      | none => simp [hchild] at h
      | some child =>
          simp only [hchild, Option.map_some, Option.bind_some] at h
          obtain ⟨q, n', hm, hscope, habove⟩ :=
            ih (p := ⟨n.kind :: p.above, decide (i + 1 < n.children.length)⟩) h
          refine ⟨q, n', hm, ?_, ?_⟩
          · rw [scoped?, hchild, Option.bind_some, ← hscope]
            rw [Place.scope_cons n.kind p.above p.followed]
          · rw [habove]
            simp [kindsAbove, hchild]

end Node

end RichText
