import Mathlib.Data.List.Basic
import RichText.Node.Walk
import RichText.Proofs.Node.Induction

/-! # Walks over trees

The loop over a stack of pending nodes ends on every tree, and what it reports is the recursive
listing: the nodes at all paths, in the order of the paths. The plain text of a tree is put together
along the walk. -/

namespace RichText

/-! ## Texts put together -/

namespace Text

theorem join_flatMap {β : Type} (l : List β) (f : β → List String) :
    String.join (l.flatMap f) = String.join (l.map fun x => String.join (f x)) := by
  induction l with
  | nil => rfl
  | cons x l ih => rw [List.flatMap_cons, String.join_append, ih, List.map_cons, String.join_cons]

theorem join_filterMap {β : Type} (l : List β) (f : β → Option String) :
    String.join (l.filterMap f) = String.join (l.map fun x => (f x).getD "") := by
  induction l with
  | nil => rfl
  | cons x l ih =>
      rw [List.map_cons, String.join_cons, ← ih]
      cases hx : f x with
      | none => rw [List.filterMap_cons_none hx, Option.getD_none, String.empty_append]
      | some text => rw [List.filterMap_cons_some hx, String.join_cons, Option.getD_some]

/-- All texts but the first have the joiner in front of them. -/
theorem intercalate_cons_eq_join (joiner text : String) (texts : List String) :
    joiner.intercalate (text :: texts) = text ++ String.join (texts.map (joiner ++ ·)) := by
  induction texts generalizing text with
  | nil => simp
  | cons next texts ih =>
      rw [String.intercalate_cons_cons, ih, List.map_cons, String.join_cons, String.append_assoc,
        String.append_assoc]

end Text

namespace Node

variable {α : Type}

/-! ## The loop -/

/-- A run of the loop from a stack to its end, and what it reports. A round takes off the last node
of the stack and puts the children of the node at the end, the first child last. -/
inductive Visits : List (Node α) → List (Node α) → Prop
  | done : Visits [] []
  | round {stack : List (Node α)} {n : Node α} {rest : List (Node α)}
      (h : Visits (stack ++ n.children.reverse) rest) : Visits (stack ++ [n]) (n :: rest)

/-- From every stack there is one run, and it ends. -/
theorem visits_iff {stack out : List (Node α)} :
    Visits stack out ↔ out = walkFrom stack.reverse := by
  constructor
  · intro h
    induction h with
    | done => rw [List.reverse_nil, walkFrom]
    | round _ ih =>
        rw [ih, List.reverse_append, List.reverse_append, List.reverse_reverse,
          List.reverse_singleton, List.singleton_append, walkFrom]
  · -- The other way round: what is pending is the stack with its top in front.
    rintro rfl
    generalize hpending : stack.reverse = pending
    obtain rfl := List.reverse_eq_iff.mp hpending
    clear hpending
    fun_induction walkFrom pending with
    | case1 => exact .done
    | case2 n pending ih =>
        rw [List.reverse_append] at ih
        rw [List.reverse_cons]
        exact ih.round

/-- What is pending stands for the listings of its trees, the one on top first. -/
theorem walkFrom_eq (pending : List (Node α)) : walkFrom pending = pending.flatMap preorder := by
  fun_induction walkFrom pending with
  | case1 => rfl
  | case2 n pending ih =>
      rw [ih, List.flatMap_append, List.flatMap_cons, n.preorder_eq, List.cons_append]

/-! ## Paths in order -/

mutual

/-- The paths to the nodes of a tree, each before those that go on from it. -/
def paths : Node α → List (List Nat)
  | leaf _ _ => [[]]
  | branch _ _ ns => [] :: pathsAll 0 ns

/-- The paths to the nodes of several trees, which are children from a position on. -/
def pathsAll (position : Nat) : List (Node α) → List (List Nat)
  | [] => []
  | n :: ns => n.paths.map (position :: ·) ++ pathsAll (position + 1) ns

end

/-- The paths that go through a child at a position. -/
def pathsThrough (child : Node α × Nat) : List (List Nat) := child.1.paths.map (child.2 :: ·)

theorem pathsAll_eq (position : Nat) (ns : List (Node α)) :
    pathsAll position ns = (ns.zipIdx position).flatMap pathsThrough := by
  induction ns generalizing position with
  | nil => rfl
  | cons n ns ih => rw [pathsAll, ih, List.zipIdx_cons, List.flatMap_cons, pathsThrough]

theorem paths_eq (n : Node α) : n.paths = [] :: n.children.zipIdx.flatMap pathsThrough := by
  cases n with
  | leaf m l => rfl
  | branch m c ns => exact congrArg (List.cons _) (pathsAll_eq 0 ns)

theorem mem_pathsThrough_iff {children : List (Node α)} {path : List Nat} :
    path ∈ children.zipIdx.flatMap pathsThrough ↔
      ∃ i child q, children[i]? = some child ∧ q ∈ child.paths ∧ path = i :: q := by
  rw [List.mem_flatMap]
  constructor
  · rintro ⟨⟨child, i⟩, hchild, hthrough⟩
    obtain ⟨q, hq, rfl⟩ := List.mem_map.mp hthrough
    exact ⟨i, child, q, List.mem_zipIdx_iff_getElem?.mp hchild, hq, rfl⟩
  · rintro ⟨i, child, q, hchild, hq, rfl⟩
    exact ⟨(child, i), List.mem_zipIdx_iff_getElem?.mpr hchild, List.mem_map_of_mem hq⟩

/-- A path is listed if and only if it leads to a node. -/
theorem mem_paths_iff (n : Node α) (path : List Nat) : path ∈ n.paths ↔ (n.at? path).isSome := by
  induction path generalizing n with
  | nil => simp [paths_eq, at?]
  | cons i path ih =>
      rw [paths_eq, List.mem_cons, or_iff_right (List.cons_ne_nil _ _), mem_pathsThrough_iff, at?,
        Option.isSome_bind]
      cases hchild : n.children[i]? with
      | none => simp [hchild]
      | some child => simp [hchild, ih]

theorem pairwise_zipIdx (ns : List (Node α)) : ns.zipIdx.Pairwise (·.2 < ·.2) := by
  rw [← List.pairwise_map, List.zipIdx_map_snd]
  exact List.pairwise_lt_range'

/-- Parents are listed before their children, and siblings from left to right. -/
theorem pairwise_paths (n : Node α) : n.paths.Pairwise (· < ·) := by
  induction n with
  | leaf m l => exact List.pairwise_singleton _ _
  | branch m c ns ih =>
      rw [paths_eq, children, List.pairwise_cons, List.pairwise_flatMap]
      refine ⟨?_, ?_, (pairwise_zipIdx ns).imp ?_⟩
      · intro path hpath
        obtain ⟨i, child, q, -, -, rfl⟩ := mem_pathsThrough_iff.mp hpath
        exact List.nil_lt_cons i q
      · rintro ⟨child, i⟩ hchild
        have hpaths := ih child (List.mem_of_getElem? (List.mem_zipIdx_iff_getElem?.mp hchild))
        refine List.pairwise_map.mpr (hpaths.imp fun hlt => ?_)
        exact List.cons_lt_cons_iff.mpr (.inr ⟨rfl, hlt⟩)
      · intro left right hlt path hpath path' hpath'
        obtain ⟨q, -, rfl⟩ := List.mem_map.mp hpath
        obtain ⟨q', -, rfl⟩ := List.mem_map.mp hpath'
        exact List.cons_lt_cons_iff.mpr (.inl hlt)

theorem flatMap_zipIdx {β : Type} {ns : List (Node α)} {f : Node α × Nat → List β}
    {g : Node α → List β} (h : ∀ i n, ns[i]? = some n → f (n, i) = g n) :
    ns.zipIdx.flatMap f = ns.flatMap g := by
  have hfirst : ns.zipIdx.flatMap f = ns.zipIdx.flatMap fun child => g child.1 := by
    refine List.flatMap_congr ?_
    rintro ⟨n, i⟩ hn
    exact h i n (List.mem_zipIdx_iff_getElem?.mp hn)
  rw [hfirst, ← List.flatMap_map Prod.fst g, List.zipIdx_map_fst]

theorem at?_cons {n child : Node α} {i : Nat} (hchild : n.children[i]? = some child)
    (path : List Nat) : n.at? (i :: path) = child.at? path := by
  rw [at?, hchild, Option.bind_some]

/-- The listing holds the nodes at the paths. -/
theorem map_at?_paths (n : Node α) : n.paths.map n.at? = n.preorder.map some := by
  induction n with
  | leaf m l => rfl
  | branch m c ns ih =>
      rw [paths_eq, preorder_eq, List.map_cons, List.map_cons, List.map_flatMap, List.map_flatMap,
        children]
      refine congrArg (List.cons _) (flatMap_zipIdx fun i child hchild => ?_)
      rw [← ih child (List.mem_of_getElem? hchild), pathsThrough, List.map_map]
      exact List.map_congr_left fun path _ => at?_cons hchild path

/-! ## Plain text along the walk -/

/-- What a node holds itself of the plain text, if it is of a kind that holds some. -/
def literal? : Node α → Option String
  | leaf _ (.text content) => some content
  | leaf _ (.inlineCode code) => some code
  | _ => none

/-- What stands in front of the node at a path: the joiner, if the node is a child but not the first
one. -/
def lead (joiner : String) (path : List Nat) : String :=
  match path.getLast? with
  | some (_ + 1) => joiner
  | _ => ""

/-- What the node at a path adds to the plain text. -/
def textAt (joiner : String) (n : Node α) (path : List Nat) : String :=
  lead joiner path ++ ((n.at? path).bind literal?).getD ""

/-- A node without text of its own joins what its children give, all of them. -/
theorem plainText_eq (joiner : String) (n : Node α) :
    n.plainText joiner =
      n.literal?.getD (joiner.intercalate (n.children.map (plainText joiner))) := by
  cases n with
  | leaf m l => cases l <;> simp [plainText, Leaf.plainText, literal?, children]
  | branch m c ns =>
      rw [plainText, plainTexts_eq]
      rfl

theorem join_lead_succ (joiner : String) (texts : List String) (position : Nat) :
    String.join ((texts.zipIdx (position + 1)).map fun t => lead joiner [t.2] ++ t.1) =
      String.join (texts.map (joiner ++ ·)) := by
  induction texts generalizing position with
  | nil => rfl
  | cons text texts ih =>
      rw [List.zipIdx_cons, List.map_cons, String.join_cons, ih, List.map_cons, String.join_cons]
      rfl

/-- Joined texts stand one behind the other, each behind its lead. -/
theorem intercalate_eq_join_lead (joiner : String) (texts : List String) :
    joiner.intercalate texts =
      String.join (texts.zipIdx.map fun t => lead joiner [t.2] ++ t.1) := by
  cases texts with
  | nil => rfl
  | cons text texts =>
      rw [Text.intercalate_cons_eq_join, List.zipIdx_cons, List.map_cons, String.join_cons,
        join_lead_succ]
      exact congrArg (· ++ _) String.empty_append.symm

/-- Of the nodes below a child, the child alone has another lead than it has on its own. -/
theorem textAt_cons {joiner : String} {n child : Node α} {i : Nat}
    (hchild : n.children[i]? = some child) (path : List Nat) :
    n.textAt joiner (i :: path) =
      (if path = [] then lead joiner [i] else "") ++ child.textAt joiner path := by
  rw [textAt, textAt, at?_cons hchild]
  cases path with
  | nil => simp [lead]
  | cons j path => simp [lead]

theorem join_pathsThrough {joiner : String} {n child : Node α} {i : Nat}
    (hchild : n.children[i]? = some child) :
    String.join ((pathsThrough (child, i)).map (n.textAt joiner)) =
      lead joiner [i] ++ String.join (child.paths.map (child.textAt joiner)) := by
  have hbelow : ∀ path ∈ child.children.zipIdx.flatMap pathsThrough,
      n.textAt joiner (i :: path) = child.textAt joiner path := by
    intro path hpath
    obtain ⟨j, -, q, -, -, rfl⟩ := mem_pathsThrough_iff.mp hpath
    rw [textAt_cons hchild, if_neg (List.cons_ne_nil j q), String.empty_append]
  rw [pathsThrough, List.map_map, paths_eq, List.map_cons, List.map_cons, String.join_cons,
    String.join_cons, ← String.append_assoc]
  exact congrArg₂ (· ++ ·) (textAt_cons hchild [])
    (congrArg String.join (List.map_congr_left hbelow))

/-- The plain text is what the nodes at the paths add, one after the other. -/
theorem plainText_eq_join (joiner : String) (n : Node α) :
    n.plainText joiner = String.join (n.paths.map (n.textAt joiner)) := by
  induction n with
  | leaf m l => cases l <;> simp [plainText, Leaf.plainText, paths, textAt, lead, at?, literal?]
  | branch m c ns ih =>
      have hroot : (branch m c ns).textAt joiner [] = "" := rfl
      rw [plainText, plainTexts_eq, intercalate_eq_join_lead, List.zipIdx_map, List.map_map,
        paths_eq, List.map_cons, hroot, String.join_cons, String.empty_append, List.map_flatMap,
        Text.join_flatMap]
      refine congrArg String.join (List.map_congr_left ?_)
      rintro ⟨child, i⟩ hmem
      have hchild := List.mem_zipIdx_iff_getElem?.mp hmem
      rw [join_pathsThrough hchild, ← ih child (List.mem_of_getElem? hchild)]
      rfl

/-- Without a joiner there is nothing but the literal texts of the listing. -/
theorem plainText_empty (n : Node α) :
    n.plainText "" = String.join (n.preorder.filterMap literal?) := by
  have htext : n.textAt "" = (fun o => (Option.bind o literal?).getD "") ∘ n.at? := by
    funext path
    have hlead : lead "" path = "" := by
      unfold lead
      split <;> rfl
    rw [textAt, hlead, String.empty_append]
    rfl
  rw [plainText_eq_join, htext, ← List.map_map, map_at?_paths, List.map_map, Text.join_filterMap]
  rfl

/-- The loop over a stack of pending nodes ends on every tree, and what it reports is the recursive
listing: all nodes, each at one path, parents before their children and siblings from left to right.
The plain text without a joiner is made of the literal texts on the walk. With a joiner, a node
without text of its own joins what its children give, and no child is left out: on the walk, the
joiner stands before every node that is a child but not a first one. -/
theorem walk_eq_preorder (n : Node α) :
    (∀ out, Visits [n] out ↔ out = n.walk) ∧
    n.walk = n.preorder ∧
    (n.walk.map some = n.paths.map n.at? ∧ n.paths.Pairwise (· < ·) ∧
      ∀ path, path ∈ n.paths ↔ (n.at? path).isSome) ∧
    n.plainText "" = String.join (n.walk.filterMap literal?) ∧
    ∀ joiner,
      n.plainText joiner =
        n.literal?.getD (joiner.intercalate (n.children.map (plainText joiner))) ∧
      n.plainText joiner = String.join (n.paths.map (n.textAt joiner)) := by
  have hwalk : n.walk = n.preorder := by
    rw [walk, walkFrom_eq, List.flatMap_singleton]
  refine ⟨fun out => visits_iff, hwalk, ⟨?_, n.pairwise_paths, n.mem_paths_iff⟩, ?_, ?_⟩
  · rw [hwalk, n.map_at?_paths]
  · rw [hwalk, n.plainText_empty]
  · intro joiner
    exact ⟨n.plainText_eq joiner, n.plainText_eq_join joiner⟩

end Node

end RichText
