import RichText.Proofs.Arena.Holds
import RichText.Render.Arena

/-! # The check of a tree

The check takes nodes off a stack and meets each node of a tree once, so it never takes a tree for
something else. What it finds is whether a node lies too deep: each pending node stands for all that
is below it. -/

namespace RichText

namespace Arena

variable {a : Arena}

/-- What a stack of pending nodes stands for: trees that the arena holds, and whose roots have their
depths. None of their nodes was seen, and none is in two of them. -/
structure Pending (a : Arena) (seen : List Ref) (trees : List (Node Ref × Nat)) : Prop where
  holds : ∀ e ∈ trees, Holds a e.1
  nodup : (trees.flatMap (·.1.marks)).Nodup
  unseen : ∀ r ∈ trees.flatMap (·.1.marks), r ∉ seen

/-- What a step of the check puts on the stack for a node. -/
def branches (n : Node Ref) (depth : Nat) : List (Node Ref × Nat) :=
  n.children.reverse.map (·, depth + 1)

theorem flatMap_branches_perm (n : Node Ref) (depth : Nat) (trees : List (Node Ref × Nat)) :
    (n.mark :: (branches n depth ++ trees).flatMap (·.1.marks)).Perm
      (((n, depth) :: trees).flatMap (·.1.marks)) := by
  rw [List.flatMap_cons, List.flatMap_append, n.marks_eq, List.cons_append, branches,
    List.flatMap_map]
  exact (((List.reverse_perm _).flatMap_right _).append_right _).cons _

/-- A step of the check takes a node off the stack and puts its children on top. -/
theorem Pending.step {seen : List Ref} {n : Node Ref} {depth : Nat} {trees : List (Node Ref × Nat)}
    (h : a.Pending seen ((n, depth) :: trees)) :
    a.Pending (n.mark :: seen) (branches n depth ++ trees) := by
  have hperm := flatMap_branches_perm n depth trees
  have hnodup := hperm.nodup_iff.mpr h.nodup
  obtain ⟨hfresh, hrest⟩ := List.nodup_cons.mp hnodup
  refine ⟨?_, hrest, ?_⟩
  · intro e he
    rcases List.mem_append.mp he with hchild | htree
    · obtain ⟨m, hm, rfl⟩ := List.mem_map.mp hchild
      obtain ⟨i, hi⟩ := List.mem_iff_getElem?.mp (List.mem_reverse.mp hm)
      exact (h.holds (n, depth) List.mem_cons_self).child hi
    · exact h.holds e (List.mem_cons_of_mem _ htree)
  · intro r hr hseen
    rcases List.mem_cons.mp hseen with rfl | hseen
    · exact hfresh hr
    · exact h.unseen r (hperm.subset (List.mem_cons_of_mem _ hr)) hseen

/-- How many nodes a stack stands for. -/
def pendingSize (trees : List (Node Ref × Nat)) : Nat := (trees.flatMap (·.1.marks)).length

theorem pendingSize_step (n : Node Ref) (depth : Nat) (trees : List (Node Ref × Nat)) :
    pendingSize ((n, depth) :: trees) = pendingSize (branches n depth ++ trees) + 1 :=
  (flatMap_branches_perm n depth trees).length_eq.symm

/-- Unless the node that is taken off is too deep itself, its children tell as much as it does. -/
theorem exists_deep_step {limit : Int} {n : Node Ref} {depth : Nat}
    (hdepth : ¬ limit < depth) (trees : List (Node Ref × Nat)) :
    (∃ e ∈ (n, depth) :: trees, limit < (e.2 : Int) + e.1.height) ↔
      ∃ e ∈ branches n depth ++ trees, limit < (e.2 : Int) + e.1.height := by
  have hchildren : limit < (depth : Int) + n.height ↔
      ∃ e ∈ branches n depth, limit < (e.2 : Int) + e.1.height := by
    rw [n.lt_add_height_iff, or_iff_right hdepth]
    simp [branches]
  simp only [List.mem_cons, List.mem_append, or_and_right, exists_or, exists_eq_left]
  rw [hchildren]

/-- The check finds fault with a stack of trees if and only if a node in one of them lies too deep,
if it takes enough steps. -/
theorem checkFrom_eq {limit : Int} {steps : Nat} {seen : List Ref} {trees : List (Node Ref × Nat)}
    (h : a.Pending seen trees) (hsteps : pendingSize trees ≤ steps) :
    a.checkFrom limit steps seen (trees.map fun e => (e.1.mark, e.2)) =
      if ∃ e ∈ trees, limit < (e.2 : Int) + e.1.height then .error (.tooDeep limit) else .ok () := by
  -- Each step takes one node off, so the nodes that are left never outnumber the steps.
  induction steps generalizing seen trees with
  | zero =>
      cases trees with
      | nil => rfl
      | cons e trees =>
          rw [pendingSize_step] at hsteps
          omega
  | succ steps ih =>
      cases trees with
      | nil => rfl
      | cons e trees =>
          obtain ⟨n, depth⟩ := e
          have hnew : seen.contains n.mark = false := by
            have hmem : n.mark ∈ ((n, depth) :: trees).flatMap (·.1.marks) := by
              rw [List.flatMap_cons, n.marks_eq]
              exact List.mem_cons_self
            simpa using h.unseen n.mark hmem
          rw [List.map_cons, checkFrom, hnew, if_neg (by decide)]
          by_cases hdepth : limit < depth
          · rw [if_pos hdepth, if_pos]
            exact ⟨_, List.mem_cons_self, by dsimp only; omega⟩
          · have hpushed : (a.children n.mark).reverse.map (·, depth + 1) ++
                trees.map (fun e => (e.1.mark, e.2)) =
                  (branches n depth ++ trees).map fun e => (e.1.mark, e.2) := by
              rw [(h.holds _ List.mem_cons_self).children, List.map_append, branches, List.map_map,
                ← List.map_reverse, List.map_map]
              rfl
            rw [pendingSize_step] at hsteps
            rw [if_neg hdepth, hpushed, ih h.step (by omega)]
            exact if_congr (exists_deep_step hdepth trees).symm rfl rfl

theorem HoldsTree.check {root n : Node Ref} {path : List Nat} (h : a.HoldsTree root)
    (hn : root.at? path = some n) (limit : Int) :
    a.check limit n.mark = if limit < n.height then .error (.tooDeep limit) else .ok () := by
  have hpending : a.Pending [] [(n, 0)] := by
    refine ⟨?_, ?_, fun _ _ h => by cases h⟩
    · intro e he
      cases List.mem_singleton.mp he
      exact h.holds.at? hn
    · rw [List.flatMap_singleton]
      exact h.unshared.sublist (Node.marks_sublist hn)
  have hsteps : pendingSize [(n, 0)] ≤ a.cells.size + 1 := by
    rw [pendingSize, List.flatMap_singleton, Node.length_marks]
    exact Nat.le_succ_of_le (h.size_le hn)
  simpa [Arena.check] using checkFrom_eq hpending hsteps

end Arena

end RichText
