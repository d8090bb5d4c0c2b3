import RichText.Node.Place
import RichText.Proofs.Node.Induction

/-! # Heights of trees

The height of a tree is the length of its longest path. -/

namespace RichText.Node

variable {α : Type}

theorem height_eq_heightAll (n : Node α) : n.height = heightAll n.children := by
  cases n <;> rfl

theorem height_lt_heightAll {ns : List (Node α)} {i : Nat} {n : Node α} (h : ns[i]? = some n) :
    n.height < heightAll ns := by
  induction ns generalizing i with
  | nil => cases h
  | cons m ns ih =>
      rw [heightAll]
      cases i with
      | zero =>
          cases h
          omega
      | succ i =>
          have hrest := ih h
          omega

/-- Some tree among several is as high as the highest. -/
theorem exists_height_eq {ns : List (Node α)} (h : 0 < heightAll ns) :
    ∃ (i : Nat) (n : Node α), ns[i]? = some n ∧ n.height + 1 = heightAll ns := by
  induction ns with
  | nil => simp [heightAll] at h
  | cons m ns ih =>
      rw [heightAll]
      by_cases hm : heightAll ns ≤ m.height + 1
      · exact ⟨0, m, rfl, by omega⟩
      · obtain ⟨i, n, hn, hheight⟩ := ih (by omega)
        exact ⟨i + 1, n, hn, by omega⟩

/-- No path and what is below its end lead further down than the height. -/
theorem height_add_length_le {path : List Nat} {n m : Node α} (h : n.at? path = some m) :
    m.height + path.length ≤ n.height := by
  induction path generalizing n with
  | nil =>
      cases h
      exact Nat.le_refl _
  | cons i path ih =>
      obtain ⟨child, hchild, hm⟩ := Option.bind_eq_some_iff.mp h
      have hpath := ih hm
      cases n with
      | leaf mark l => cases hchild
      | branch mark c ns =>
          have hlt : child.height < heightAll ns := height_lt_heightAll hchild
          rw [List.length_cons, height]
          omega

/-- Some path leads down as far as the height. -/
theorem exists_at?_height (n : Node α) : ∃ path m, n.at? path = some m ∧ path.length = n.height := by
  induction n with
  | leaf mark l => exact ⟨[], _, rfl, rfl⟩
  | branch mark c ns ih =>
      by_cases h : 0 < heightAll ns
      · obtain ⟨i, child, hchild, hheight⟩ := exists_height_eq h
        obtain ⟨path, m, hm, hpath⟩ := ih child (List.mem_of_getElem? hchild)
        refine ⟨i :: path, m, ?_, ?_⟩
        · rw [at?, children, hchild, Option.bind_some, hm]
        · rw [List.length_cons, hpath, hheight, height]
      · refine ⟨[], _, rfl, ?_⟩
        rw [List.length_nil, height]
        omega

/-- A tree is higher than a limit if and only if a node of it lies more levels below its root. -/
theorem lt_height_iff (n : Node α) (limit : Int) :
    limit < n.height ↔ ∃ path m, n.at? path = some m ∧ limit < path.length := by
  constructor
  · intro h
    obtain ⟨path, m, hm, hpath⟩ := n.exists_at?_height
    exact ⟨path, m, hm, by omega⟩
  · rintro ⟨path, m, hm, hpath⟩
    have hle := height_add_length_le hm
    omega

/-- A node is too deep, or one of its children is when it is one level further down. -/
theorem lt_add_height_iff (n : Node α) (limit : Int) (depth : Nat) :
    limit < depth + n.height ↔
      limit < depth ∨ ∃ m ∈ n.children, limit < (depth + 1 : Nat) + m.height := by
  cases n with
  | leaf m l => simp [height, children]
  | branch m c ns =>
      rw [height, children]
      constructor
      · intro h
        by_cases hdeep : limit < depth
        · exact .inl hdeep
        · have hbelow : 0 < heightAll ns := by omega
          obtain ⟨i, n, hn, hheight⟩ := exists_height_eq hbelow
          exact .inr ⟨n, List.mem_of_getElem? hn, by omega⟩
      · rintro (hdeep | ⟨n, hn, hdeep⟩)
        · omega
        · obtain ⟨i, hi⟩ := List.mem_iff_getElem?.mp hn
          have hlower := height_lt_heightAll hi
          omega

/-! ## Trees changed node by node -/

section Changed

variable {β : Type} {f : Node α → Node β} (hf : ∀ n, (f n).children = n.children.map f)
include hf

theorem at?_of_children (n : Node α) (path : List Nat) : (f n).at? path = (n.at? path).map f := by
  induction path generalizing n with
  | nil => rfl
  | cons i path ih =>
      rw [at?, at?, hf, List.getElem?_map]
      cases n.children[i]? with
      | none => rfl
      | some child => exact ih child

/-- A tree in which every node is changed by itself is as high as it was. -/
theorem height_of_children (n : Node α) : (f n).height = n.height := by
  induction n with
  | leaf m l =>
      rw [height_eq_heightAll, hf]
      rfl
  | branch m c ns ih =>
      rw [height_eq_heightAll, hf, children, height]
      induction ns with
      | nil => rfl
      | cons n ns ihs =>
          rw [List.map_cons, heightAll, heightAll, ih n List.mem_cons_self,
            ihs fun m hm => ih m (List.mem_cons_of_mem n hm)]

end Changed

/-- Places do not count for the height. -/
@[simp] theorem height_place (n : Node α) (above : List Kind) (followed : Bool) :
    (n.place above followed).height = n.height := by
  induction n generalizing above followed with
  | leaf mark l => rfl
  | branch mark c ns ih =>
      rw [place, height, height]
      generalize c.kind :: above = above'
      induction ns with
      | nil => rfl
      | cons n ns ihs =>
          rw [placeAll, heightAll, heightAll, ih n List.mem_cons_self,
            ihs fun m hm => ih m (List.mem_cons_of_mem n hm)]

end RichText.Node
