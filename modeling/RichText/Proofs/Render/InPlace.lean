import RichText.Proofs.Render.Attributes
import RichText.Proofs.Render.Faults
import RichText.Proofs.Render.Texts

/-! # Rendering in place

What a tree shows contains what each of its nodes shows where it stands, restyled by the containers
around the node. Separators, depths and margins of the node take what is above it into account
already; fonts, colours and links do not. -/

namespace RichText

namespace Node

variable {α : Type}

def containersAbove : Node α → List Nat → List Container
  | branch _ c ns, i :: path => c :: ns[i]?.elim [] (·.containersAbove path)
  | _, _ => []

/-- The path never leads from a list to a child that is no item. -/
def IsShown : Node α → List Nat → Prop
  | branch _ c ns, i :: path => ∀ n, ns[i]? = some n → c.shows n.kind ∧ n.IsShown path
  | _, _ => True

theorem isShown_place (n : Node α) (above : List Kind) (followed : Bool) (path : List Nat) :
    (n.place above followed).IsShown path ↔ n.IsShown path := by
  induction path generalizing n above followed with
  | nil => cases n <;> exact Iff.rfl
  | cons i path ih =>
      cases n with
      | leaf mark l => exact Iff.rfl
      | branch mark c ns =>
          rw [place, IsShown, IsShown, getElem?_placeAll]
          cases ns[i]? with
          | none => simp
          | some m => simp [ih]

theorem decide_one_lt_length (n : Node α) (ns : List (Node α)) :
    decide (0 + 1 < (n :: ns).length) = !ns.isEmpty := by
  cases ns <;> simp

/-- The pieces of a child that is shown are among those of all children. -/
theorem pieces_infix_piecesAll {s : Scope} {c : Container} {ns : List (Node α)} {i : Nat}
    {n : Node α} (hn : ns[i]? = some n) (hshow : c.shows n.kind) (mark : Option Mark)
    (index : Nat) :
    n.pieces (s.below c.kind (i + 1 < ns.length)) <:+: piecesAll s c mark index ns := by
  induction ns generalizing i index with
  | nil => cases hn
  | cons m ns ih =>
      rw [piecesAll]
      cases i with
      | zero =>
          cases hn
          rw [if_pos hshow, decide_one_lt_length]
          exact List.infix_append _ _ _
      | succ i =>
          have hrest : ∀ j, n.pieces (s.below c.kind (i + 1 + 1 < (m :: ns).length)) <:+:
              piecesAll s c mark j ns := by
            intro j
            simpa using ih hn j
          split
          · exact List.infix_append_of_infix_right (hrest _)
          · exact hrest _

/-- The checkpoints of a child that is shown are among those of all children. -/
theorem checkpoints_infix_checkpointsAll {c : Container} {above : List Kind} {ns : List (Node α)}
    {i : Nat} {n : Node α} (hn : ns[i]? = some n) (hshow : c.shows n.kind) :
    n.checkpoints above (i + 1 < ns.length) <:+: checkpointsAll c above ns := by
  induction ns generalizing i with
  | nil => cases hn
  | cons m ns ih =>
      rw [checkpointsAll]
      cases i with
      | zero =>
          cases hn
          rw [if_pos hshow, decide_one_lt_length]
          exact List.infix_append_left
      | succ i =>
          have hrest : n.checkpoints above (i + 1 + 1 < (m :: ns).length) <:+:
              checkpointsAll c above ns := by
            simpa using ih hn
          split
          · exact List.infix_append_of_infix_right hrest
          · exact hrest

/-- A path that leads below a node leads to one of its children first. -/
theorem exists_child_of_scoped? {i : Nat} {path : List Nat} {n m : Node α} {s s' : Scope}
    (hshown : n.IsShown (i :: path)) (h : n.scoped? s (i :: path) = some (s', m)) :
    ∃ mark c ns child, n = .branch mark c ns ∧ ns[i]? = some child ∧ c.shows child.kind ∧
      child.IsShown path ∧
        child.scoped? (s.below c.kind (i + 1 < ns.length)) path = some (s', m) := by
  obtain ⟨child, hchild, hscoped⟩ := Option.bind_eq_some_iff.mp h
  cases n with
  | leaf mark l => cases hchild
  | branch mark c ns =>
      obtain ⟨hshow, hbelow⟩ := hshown child hchild
      exact ⟨mark, c, ns, child, rfl, hchild, hshow, hbelow, hscoped⟩

/-- The pieces of a node are among those of the root, inside the containers above the node. -/
theorem pieces_infix {path : List Nat} {n m : Node α} {s s' : Scope} (hshown : n.IsShown path)
    (h : n.scoped? s path = some (s', m)) :
    (m.pieces s').map (fun p => (n.containersAbove path).foldr Piece.inside p) <:+: n.pieces s := by
  induction path generalizing n s with
  | nil =>
      cases h
      cases m <;> simp [containersAbove]
  | cons i path ih =>
      obtain ⟨mark, c, ns, child, rfl, hn, hshow, hbelow, hscoped⟩ :=
        exists_child_of_scoped? hshown h
      have hinner := (ih hbelow hscoped).trans
        (pieces_infix_piecesAll hn hshow (c.mark? s ns.length) 0)
      have houter := hinner.map (Piece.inside c)
      rw [List.map_map] at houter
      simp only [containersAbove, hn, Option.elim_some, List.foldr_cons]
      exact List.infix_append_of_infix_left houter

/-- The checkpoints of a node are among those of the root. -/
theorem checkpoints_infix {path : List Nat} {n m : Node α} {s s' : Scope}
    (hshown : n.IsShown path) (h : n.scoped? s path = some (s', m)) (above : List Kind) :
    m.checkpoints ((n.kindsAbove path).reverse ++ above) s'.followed <:+:
      n.checkpoints above s.followed := by
  induction path generalizing n s above with
  | nil =>
      cases h
      exact List.infix_rfl
  | cons i path ih =>
      obtain ⟨mark, c, ns, child, rfl, hn, hshow, hbelow, hscoped⟩ :=
        exists_child_of_scoped? hshown h
      have hinner := (ih hbelow hscoped (c.kind :: above)).trans
        (checkpoints_infix_checkpointsAll hn hshow)
      simp only [kindsAbove, children, hn, Option.elim_some, List.reverse_cons,
        List.append_assoc, List.singleton_append, kind, checkpoints]
      split
      · exact List.infix_append_of_infix_left hinner
      · exact List.infix_cons hinner

end Node

namespace Renderer

variable (r : Renderer)

/-- What containers do to a run inside all of them, the innermost first. -/
def dressIn (containers : List Container) (run : Run) : Run := containers.foldr r.dress run

theorem runOf_insideAll (containers : List Container) (p : Piece) :
    r.runOf (containers.foldr Piece.inside p) = r.dressIn containers (r.runOf p) := by
  induction containers with
  | nil => rfl
  | cons c containers ih => rw [List.foldr_cons, runOf_inside, ih, dressIn, dressIn, List.foldr_cons]

@[simp] theorem text_dressIn (containers : List Container) (run : Run) :
    (r.dressIn containers run).text = run.text := by
  induction containers with
  | nil => rfl
  | cons c containers ih => rw [dressIn, List.foldr_cons, text_dress, ← dressIn, ih]

/-- An attribute that no container writes is kept by all of them. -/
theorem get_dressIn_of_unwritten (containers : List Container) (run : Run) {k : Key}
    (hk : k ≠ .font) (hnone : ∀ c, r.written c k = none) :
    (r.dressIn containers run).attributes.get k = run.attributes.get k := by
  induction containers with
  | nil => rfl
  | cons c containers ih =>
      rw [dressIn, List.foldr_cons, r.get_dress c _ hk, hnone c, ← dressIn, ih]
      rfl

/-- What is rendered anywhere contains what a node below shows where it stands, if no list on the way
leaves the node out. -/
theorem exists_render_below {α : Type} {n : Node α} {p : Place} {path : List Nat}
    {m : Node Place} {out : StyledText} (hm : (n.place p.above p.followed).at? path = some m)
    (hshown : n.IsShown path) (h : (r.render (n.place p.above p.followed)).result = .ok out) :
    ∃ inner before after, (r.render m).result = .ok inner ∧
      out.runs = before ++ inner.runs.map (r.dressIn (n.containersAbove path)) ++ after := by
  obtain ⟨q, m', rfl, hscoped, habove⟩ := Node.exists_scoped?_of_at?_place hm
  obtain ⟨hheight, hpoints, hruns⟩ := (r.render_eq_ok_iff n p out).mp h
  have hlower : (m'.place q.above q.followed).height ≤ r.options.maxNestingDepth := by
    have hpath := Node.height_add_length_le hm
    omega
  -- The checkpoints of the node below are passed on the way.
  have hfaultless : ∀ c ∈ m'.checkpoints q.above q.followed, r.faultAt? c = none := by
    intro c hc
    have hpart := Node.checkpoints_infix hshown hscoped p.above
    rw [← habove] at hpart
    exact hpoints c (hpart.subset hc)
  have hinner : (r.render (m'.place q.above q.followed)).result =
      .ok ⟨(m'.pieces q.scope).map r.runOf⟩ :=
    (r.render_eq_ok_iff m' q _).mpr ⟨hlower, hfaultless, rfl⟩
  obtain ⟨before, after, hpieces⟩ := (Node.pieces_infix hshown hscoped).map r.runOf
  refine ⟨_, before, after, hinner, ?_⟩
  rw [hruns, ← hpieces, List.map_map, List.map_map]
  congr 3
  funext q
  exact r.runOf_insideAll _ q

/-- What a tree shows contains what a node in it shows where it stands, if no list on the way leaves
the node out. Each run of the node is restyled on its own by the containers above the node, and
keeps its text, its paragraph style and its depth. -/
theorem render_inPlace {α : Type} {tree : Node α} {path : List Nat} {n : Node Place}
    {out : StyledText} (hn : tree.placed.at? path = some n) (hshown : tree.IsShown path)
    (h : (r.render tree.placed).result = .ok out) :
    ∃ inner before after, (r.render n).result = .ok inner ∧
      out.runs = before ++ inner.runs.map (r.dressIn (tree.containersAbove path)) ++ after ∧
        ∀ run, (r.dressIn (tree.containersAbove path) run).text = run.text ∧
          (r.dressIn (tree.containersAbove path) run).attributes.paragraphStyle =
            run.attributes.paragraphStyle ∧
          (r.dressIn (tree.containersAbove path) run).attributes.nestingDepth =
            run.attributes.nestingDepth := by
  obtain ⟨inner, before, after, hinner, hruns⟩ :=
    r.exists_render_below (p := {}) hn hshown h
  refine ⟨inner, before, after, hinner, hruns, ?_⟩
  intro run
  exact ⟨r.text_dressIn _ run,
    r.get_dressIn_of_unwritten _ run (k := .paragraphStyle) (by decide) fun _ => rfl,
    r.get_dressIn_of_unwritten _ run (k := .nestingDepth) (by decide) fun _ => rfl⟩

end Renderer

/-- Strong text with code in it. -/
def Tree.strongCode : Tree := .branch .strong [.text "b", .leaf (.inlineCode "c")]

/-- The strong text in a link, in a quote that is an item's second block. -/
def Tree.linkedInQuote : Tree :=
  .branch .document [
    .branch (.orderedList 3) [
      .branch (.listItem none) [
        .branch .paragraph [.text "a"],
        .branch .blockQuote [
          .branch .paragraph [.branch (.link (some "target") none) [Tree.strongCode]]]]],
    .branch .paragraph [.text "d"]]

/-- Six containers restyle the strong text. Two of them, the quote and the link, change
something. -/
theorem render_inPlace_strongCode :
    Tree.linkedInQuote.placed.at? [0, 0, 1, 0, 0, 0] =
        some (Tree.strongCode.place
          [.link, .paragraph, .blockQuote, .listItem, .orderedList, .document] false) ∧
      Tree.linkedInQuote.IsShown [0, 0, 1, 0, 0, 0] ∧
      ∃ out inner before after,
        ((Renderer.mk {} .fixed).render Tree.linkedInQuote.placed).result = .ok out ∧
        ((Renderer.mk {} .fixed).render (Tree.strongCode.place
          [.link, .paragraph, .blockQuote, .listItem, .orderedList, .document] false)).result =
            .ok inner ∧
        out.runs = before ++ inner.runs.map ((Renderer.mk {} .fixed).dressIn
          [.document, .orderedList 3, .listItem none, .blockQuote, .paragraph,
            .link (some "target") none]) ++ after := by
  have hn : Tree.linkedInQuote.placed.at? [0, 0, 1, 0, 0, 0] =
      some (Tree.strongCode.place
        [.link, .paragraph, .blockQuote, .listItem, .orderedList, .document] false) := rfl
  have hshown : Tree.linkedInQuote.IsShown [0, 0, 1, 0, 0, 0] := by
    simp [Tree.linkedInQuote, Tree.branch, Node.IsShown, Container.shows, Node.kind, Container.kind,
      Kind.isList]
  obtain ⟨out, hout⟩ := Traced.exists_result_eq_ok
    (x := (Renderer.mk {} .fixed).render Tree.linkedInQuote.placed) (by decide +kernel)
  obtain ⟨inner, before, after, hinner, hruns, -⟩ :=
    Renderer.render_inPlace _ hn hshown hout
  exact ⟨hn, hshown, out, inner, before, after, hout, hinner, hruns⟩

end RichText
