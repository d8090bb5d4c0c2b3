import Mathlib.Data.List.Nodup
import Mathlib.Data.List.Perm.Subperm
import Mathlib.Tactic.ByContra
import RichText.Arena.Tree
import RichText.Proofs.Node.Marks
import RichText.Proofs.Node.Scope

/-! # Trees held by an arena

An arena holds a tree if each node of the tree is there with its contents and its children, and each
child knows its parent and its position. What the arena finds by its links is then what the tree
has: the nodes below one of its nodes, and the place of each of them. -/

namespace RichText

def Node.content {α : Type} : Node α → Content
  | leaf _ l => .leaf l
  | branch _ c _ => .container c

@[simp] theorem Node.kind_content {α : Type} (n : Node α) : n.content.kind = n.kind := by
  cases n <;> rfl

/-- A place that leaves out all that is too far up to be looked at. -/
def Place.near (p : Place) : Place := ⟨p.above.take (reach + 1), p.followed⟩

@[simp] theorem Place.followed_near (p : Place) : p.near.followed = p.followed := rfl

theorem Place.ancestors?_near (p : Place) : p.near.ancestors? = p.ancestors? := by
  unfold ancestors? near
  by_cases h : p.above.length ≤ reach
  · rw [List.take_of_length_le (by omega)]
  · rw [if_neg h, if_neg]
    rw [List.length_take]
    omega

@[simp] theorem Place.depthIn?_near (p : Place) (counts : Kind → Bool) :
    p.near.depthIn? counts = p.depthIn? counts := by
  rw [depthIn?, depthIn?, ancestors?_near]

@[simp] theorem Place.inList?_near (p : Place) : p.near.inList? = p.inList? := by
  rw [inList?, inList?, ancestors?_near]
  rw [show p.near.above.take reach = p.above.take reach by simp [near, List.take_take]]

namespace Arena

variable {a : Arena}

/-- The cell of a child knows its parent and its position. -/
def Attached (a : Arena) (child parent : Ref) (index : Nat) : Prop :=
  ∃ cell, a.get? child = some cell ∧ cell.parent = some parent ∧ cell.index = index

/-- The nodes of a tree are in the arena, each with its contents and its children, and all children
are attached. -/
inductive Holds (a : Arena) : Node Ref → Prop
  | intro {n : Node Ref} {parent : Option Ref} {index : Int}
      (cell : a.get? n.mark = some ⟨n.content, n.children.map Node.mark, parent, index⟩)
      (attached : ∀ (i : Nat) m, n.children[i]? = some m → a.Attached m.mark n.mark i)
      (below : ∀ (i : Nat) m, n.children[i]? = some m → Holds a m) : Holds a n

/-- Looking up from a node finds the kinds of a place, as many as are asked for. -/
structure StandsAt (a : Arena) (r : Ref) (p : Place) : Prop where
  above : ∀ count, (a.aboveFrom count r).filterMap a.kind? = p.above.take count
  followed : a.isFollowed r = p.followed

theorem StandsAt.place_eq {r : Ref} {p : Place} (h : a.StandsAt r p) : a.place r = p.near := by
  rw [Arena.place, Arena.above, h.above, h.followed, Place.near]

theorem standsAt_of_parent?_eq_none {r : Ref} (h : a.parent? r = none) : a.StandsAt r {} := by
  refine ⟨?_, ?_⟩
  · intro count
    cases count with
    | zero => rfl
    | succ count => simp [aboveFrom, h]
  · simp [isFollowed, h]

theorem lt_size_of_isSome {r : Ref} (h : (a.get? r).isSome) : r.index < a.cells.size := by
  by_contra hlarge
  rw [get?, Array.getElem?_eq_none (Nat.le_of_not_lt hlarge)] at h
  cases h

theorem mapM_map_eq_some {α β : Type} {f : β → Option α} {g : α → β} {l : List α}
    (h : ∀ x ∈ l, f (g x) = some x) : (l.map g).mapM f = some l := by
  induction l with
  | nil => rfl
  | cons x l ih =>
      rw [List.map_cons, List.mapM_cons, h x List.mem_cons_self,
        ih fun y hy => h y (List.mem_cons_of_mem x hy)]
      rfl

namespace Holds

theorem children {n : Node Ref} (h : Holds a n) : a.children n.mark = n.children.map Node.mark := by
  obtain ⟨cell, -, -⟩ := h
  simp [Arena.children, cell]

theorem kind? {n : Node Ref} (h : Holds a n) : a.kind? n.mark = some n.kind := by
  obtain ⟨cell, -, -⟩ := h
  simp [Arena.kind?, cell]

theorem isSome {n : Node Ref} (h : Holds a n) : (a.get? n.mark).isSome := by
  obtain ⟨cell, -, -⟩ := h
  simp [cell]

theorem child {n m : Node Ref} {i : Nat} (h : Holds a n) (hm : n.children[i]? = some m) :
    Holds a m := by
  obtain ⟨-, -, below⟩ := h
  exact below i m hm

theorem at? {path : List Nat} {n m : Node Ref} (h : Holds a n) (hm : n.at? path = some m) :
    Holds a m := by
  induction path generalizing n with
  | nil =>
      cases hm
      exact h
  | cons i path ih =>
      obtain ⟨child, hchild, hm⟩ := Option.bind_eq_some_iff.mp hm
      exact ih (h.child hchild) hm

/-- The parent of a child is the node it is a child of. -/
theorem parent? {n m : Node Ref} {i : Nat} (h : Holds a n) (hm : n.children[i]? = some m) :
    a.parent? m.mark = some n.mark := by
  have hparent := h.isSome
  obtain ⟨-, attached, -⟩ := h
  obtain ⟨cell, hcell, hknows, -⟩ := attached i m hm
  simp [Arena.parent?, hcell, hknows, hparent]

/-- A child has a sibling after it if it is not the last. -/
theorem isFollowed {n m : Node Ref} {i : Nat} (h : Holds a n) (hm : n.children[i]? = some m) :
    a.isFollowed m.mark = decide (i + 1 < n.children.length) := by
  have hparent := h.parent? hm
  have hchildren := h.children
  obtain ⟨-, attached, -⟩ := h
  obtain ⟨cell, hcell, -, hindex⟩ := attached i m hm
  simp only [Arena.isFollowed, hcell, hparent, hchildren, hindex, List.length_map]
  exact decide_eq_decide.mpr (by omega)

/-- A child stands below its parent. -/
theorem standsAt {n m : Node Ref} {i : Nat} {p : Place} (h : Holds a n)
    (hm : n.children[i]? = some m) (hp : a.StandsAt n.mark p) :
    a.StandsAt m.mark ⟨n.kind :: p.above, i + 1 < n.children.length⟩ := by
  refine ⟨?_, h.isFollowed hm⟩
  intro count
  cases count with
  | zero => rfl
  | succ count =>
      simp only [Arena.aboveFrom, h.parent? hm, List.filterMap_cons, h.kind?, hp.above,
        List.take_succ_cons]

/-- Looking up from each of its nodes finds the places of a tree. -/
theorem map_place {n : Node Ref} {p : Place} (h : Holds a n) (hp : a.StandsAt n.mark p) :
    n.map a.place = (n.place p.above p.followed).map Place.near := by
  induction n generalizing p with
  | leaf m l => exact congrArg (Node.leaf · l) hp.place_eq
  | branch m c ns ih =>
      -- Position by position, as whether a child is followed depends on its position.
      have hbelow : ns.map (Node.map a.place) =
          (Node.placeAll (c.kind :: p.above) ns).map (Node.map Place.near) := by
        apply List.ext_getElem?
        intro i
        rw [List.getElem?_map, List.getElem?_map, Node.getElem?_placeAll]
        cases hn : ns[i]? with
        | none => rfl
        | some n =>
            exact congrArg some (ih n (List.mem_of_getElem? hn) (h.child hn) (h.standsAt hn hp))
      rw [Node.place, Node.map, Node.map, Node.mapAll_eq, Node.mapAll_eq, hbelow]
      exact congrArg (Node.branch · c _) hp.place_eq

theorem unfold {n : Node Ref} {levels : Nat} (h : Holds a n) (hlevels : n.height < levels) :
    a.unfold levels n.mark = some n := by
  induction n generalizing levels with
  | leaf m l =>
      obtain ⟨cell, -, -⟩ := h
      cases levels with
      | zero => cases hlevels
      | succ levels =>
          simp only [Arena.unfold, cell, Node.content]
          rfl
  | branch m c ns ih =>
      cases levels with
      | zero => cases hlevels
      | succ levels =>
          have hbelow : ∀ n ∈ ns, a.unfold levels n.mark = some n := by
            intro n hn
            obtain ⟨i, hi⟩ := List.mem_iff_getElem?.mp hn
            have hlower := Node.height_lt_heightAll hi
            rw [Node.height] at hlevels
            exact ih n hn (h.child hi) (by omega)
          obtain ⟨cell, -, -⟩ := h
          simp only [Arena.unfold, cell, Node.content, Node.children, mapM_map_eq_some hbelow]
          rfl

/-- Whatever the marks of the tree stand for is in the arena. -/
theorem lt_size {n : Node Ref} (h : Holds a n) : ∀ r ∈ n.marks, r.index < a.cells.size := by
  induction n with
  | leaf m l =>
      intro r hr
      cases List.mem_singleton.mp hr
      exact lt_size_of_isSome h.isSome
  | branch m c ns ih =>
      intro r hr
      rw [Node.marks_eq] at hr
      rcases List.mem_cons.mp hr with hroot | hbelow
      · cases hroot
        exact lt_size_of_isSome h.isSome
      · obtain ⟨n, hn, hr⟩ := List.mem_flatMap.mp hbelow
        obtain ⟨i, hi⟩ := List.mem_iff_getElem?.mp hn
        exact ih n hn (h.child hi) r hr

end Holds

/-- A whole tree in an arena: there is no node above its root, and no node is met twice. -/
structure HoldsTree (a : Arena) (root : Node Ref) : Prop where
  holds : Holds a root
  top : a.parent? root.mark = none
  unshared : root.marks.Nodup

namespace HoldsTree

variable {root n : Node Ref} {path : List Nat}

/-- A tree has no more nodes than the arena. -/
theorem size_le (h : a.HoldsTree root) (hn : root.at? path = some n) : n.size ≤ a.cells.size := by
  have hnodup : n.marks.Nodup := h.unshared.sublist (Node.marks_sublist hn)
  have hindices : (n.marks.map Ref.index).Nodup :=
    List.Nodup.map (fun _ _ hindex => congrArg Ref.mk hindex) hnodup
  have hrange : n.marks.map Ref.index ⊆ List.range a.cells.size := by
    intro i hi
    obtain ⟨r, hr, rfl⟩ := List.mem_map.mp hi
    exact List.mem_range.mpr ((h.holds.at? hn).lt_size r hr)
  have hlength := (List.subperm_of_subset hindices hrange).length_le
  rwa [List.length_map, Node.length_marks, List.length_range] at hlength

theorem tree? (h : a.HoldsTree root) (hn : root.at? path = some n) : a.tree? n.mark = some n := by
  have hsize := h.size_le hn
  have hheight := n.height_lt_size
  exact (h.holds.at? hn).unfold (by omega)

/-- Looking up from the nodes of a tree finds their places in it. -/
theorem map_place (h : a.HoldsTree root) (hn : root.at? path = some n) {n' : Node Place}
    (hn' : root.placed.at? path = some n') : n.map a.place = n'.map Place.near := by
  have hroot : root.map a.place = root.placed.map Place.near :=
    h.holds.map_place (standsAt_of_parent?_eq_none h.top)
  have hpath := congrArg (·.at? path) hroot
  simpa only [Node.at?_map, hn, hn', Option.map_some, Option.some.injEq] using hpath

theorem height_eq (h : a.HoldsTree root) (hn : root.at? path = some n) {n' : Node Place}
    (hn' : root.placed.at? path = some n') : n'.height = n.height := by
  rw [← n.height_map a.place, h.map_place hn hn', n'.height_map]

theorem placed? (h : a.HoldsTree root) (hn : root.at? path = some n) {n' : Node Place}
    (hn' : root.placed.at? path = some n') : a.placed? n.mark = some (n'.map Place.near) := by
  rw [Arena.placed?, h.tree? hn, Option.map_some, h.map_place hn hn']

end HoldsTree

end Arena

end RichText
