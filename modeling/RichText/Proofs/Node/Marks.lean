import Mathlib.Data.List.Flatten
import RichText.Node.Walk
import RichText.Proofs.Node.Height

/-! # Marks of trees

Other marks leave a tree as it is: its paths, its kinds and its height stay. The marks themselves
are as many as the nodes. -/

namespace RichText.Node

variable {α β : Type}

@[simp] theorem kind_map (f : α → β) (n : Node α) : (n.map f).kind = n.kind := by
  cases n <;> rfl

theorem children_map (f : α → β) (n : Node α) : (n.map f).children = n.children.map (map f) := by
  cases n with
  | leaf m l => rfl
  | branch m c ns => exact mapAll_eq f ns

theorem at?_map (f : α → β) (n : Node α) (path : List Nat) :
    (n.map f).at? path = (n.at? path).map (map f) :=
  at?_of_children (children_map f) n path

@[simp] theorem height_map (f : α → β) (n : Node α) : (n.map f).height = n.height :=
  height_of_children (children_map f) n

/-- The marks on a node and on everything below. -/
def marks (n : Node α) : List α := n.preorder.map mark

theorem marks_eq (n : Node α) : n.marks = n.mark :: n.children.flatMap marks := by
  rw [marks, preorder_eq, List.map_cons, List.map_flatMap]
  rfl

/-- There are as many marks as nodes. -/
@[simp] theorem length_marks (n : Node α) : n.marks.length = n.size := by
  induction n with
  | leaf m l => rfl
  | branch m c ns ih =>
      have hall : (ns.flatMap marks).length = sizeAll ns := by
        induction ns with
        | nil => rfl
        | cons n ns ihs =>
            rw [List.flatMap_cons, List.length_append, sizeAll, ih n List.mem_cons_self,
              ihs fun m hm => ih m (List.mem_cons_of_mem n hm)]
      rw [marks_eq, List.length_cons, children, hall, size, Nat.add_comm]

theorem marks_sublist {path : List Nat} {n m : Node α} (h : n.at? path = some m) :
    m.marks.Sublist n.marks := by
  induction path generalizing n with
  | nil =>
      cases h
      exact List.Sublist.refl _
  | cons i path ih =>
      obtain ⟨child, hchild, hm⟩ := Option.bind_eq_some_iff.mp h
      have hone : [child].Sublist n.children :=
        List.singleton_sublist.mpr (List.mem_of_getElem? hchild)
      have hall := hone.flatMap marks
      rw [List.flatMap_singleton] at hall
      rw [n.marks_eq]
      exact ((ih hm).trans hall).cons n.mark

/-- Every level takes a node. -/
theorem height_lt_size (n : Node α) : n.height < n.size := by
  induction n with
  | leaf m l => exact Nat.one_pos
  | branch m c ns ih =>
      have hall : heightAll ns ≤ sizeAll ns := by
        induction ns with
        | nil => exact Nat.le_refl 0
        | cons n ns ihs =>
            have hn := ih n List.mem_cons_self
            have hns := ihs fun m hm => ih m (List.mem_cons_of_mem n hm)
            rw [heightAll, sizeAll]
            omega
      rw [height, size]
      omega

end RichText.Node
