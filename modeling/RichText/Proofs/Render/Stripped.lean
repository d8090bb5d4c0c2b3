import RichText.Backend.Fixed
import RichText.Proofs.Node.Height
import RichText.Proofs.Node.Scope
import RichText.Proofs.Traced
import RichText.Render.Basic

/-! # What a rendering does not look at

Some of what a tree holds is kept for its readers and never rendered: HTML, the language of code, the
number a list starts at, the state of a task, the titles of links and images and the source of an
image. Trees that differ in nothing else are rendered alike, down to faults and reports. -/

namespace RichText

def Leaf.stripped : Leaf → Leaf
  | .codeBlock code _ => .codeBlock code none
  | .htmlBlock _ => .htmlBlock ""
  | .inlineHtml _ => .inlineHtml ""
  | l => l

def Container.stripped : Container → Container
  | .orderedList _ => .orderedList 1
  | .listItem _ => .listItem none
  | .link destination _ => .link destination none
  | .image _ _ => .image none none
  | c => c

@[simp] theorem Leaf.kind_stripped (l : Leaf) : l.stripped.kind = l.kind := by
  cases l <;> rfl

@[simp] theorem Container.kind_stripped (c : Container) : c.stripped.kind = c.kind := by
  cases c <;> rfl

namespace Node

variable {α : Type}

mutual

def stripped : Node α → Node α
  | leaf m l => leaf m l.stripped
  | branch m c ns => branch m c.stripped (strippedAll ns)

def strippedAll : List (Node α) → List (Node α)
  | [] => []
  | n :: ns => n.stripped :: strippedAll ns

end

theorem strippedAll_eq (ns : List (Node α)) : strippedAll ns = ns.map stripped := by
  induction ns with
  | nil => rfl
  | cons n ns ih => rw [strippedAll, ih, List.map_cons]

@[simp] theorem kind_stripped (n : Node α) : n.stripped.kind = n.kind := by
  cases n with
  | leaf m l => exact l.kind_stripped
  | branch m c ns => exact c.kind_stripped

theorem children_stripped (n : Node α) : n.stripped.children = n.children.map stripped := by
  cases n with
  | leaf m l => rfl
  | branch m c ns => exact strippedAll_eq ns

theorem at?_stripped (n : Node α) (path : List Nat) :
    n.stripped.at? path = (n.at? path).map stripped :=
  at?_of_children children_stripped n path

@[simp] theorem height_stripped (n : Node α) : n.stripped.height = n.height :=
  height_of_children children_stripped n

/-- What is kept for readers makes no difference to where a node stands. -/
theorem stripped_place (n : Node α) (above : List Kind) (followed : Bool) :
    (n.place above followed).stripped = n.stripped.place above followed := by
  induction n generalizing above followed with
  | leaf m l => rfl
  | branch m c ns ih =>
      have hbelow : ∀ above, strippedAll (placeAll above ns) = placeAll above (strippedAll ns) := by
        intro above
        apply List.ext_getElem?
        intro i
        simp only [strippedAll_eq, List.getElem?_map, getElem?_placeAll, List.length_map]
        cases hn : ns[i]? with
        | none => rfl
        | some n => exact congrArg some (ih n (List.mem_of_getElem? hn) above _)
      rw [place, stripped, stripped, place, hbelow, c.kind_stripped]

end Node

namespace Renderer

variable (r : Renderer)

theorem leafText_stripped (l : Leaf) : r.leafText l.stripped = r.leafText l := by
  cases l <;> rfl

theorem begin_stripped (p : Place) (children : Nat) (c : Container) :
    r.begin p children c.stripped = r.begin p children c := by
  cases c <;> rfl

theorem restyle_stripped (text : StyledText) (c : Container) :
    r.restyle text c.stripped = r.restyle text c := by
  cases c <;> rfl

theorem layOut_stripped (n : Node Place) : r.layOut n.stripped = r.layOut n := by
  induction n with
  | leaf p l => rw [Node.stripped, layOut, layOut, leafText_stripped, l.kind_stripped]
  | branch p c ns ih =>
      have hall : r.layOutAll c.stripped (Node.strippedAll ns) = r.layOutAll c ns := by
        induction ns with
        | nil => rfl
        | cons n ns ihs =>
            rw [Node.strippedAll, layOutAll, layOutAll, ih n List.mem_cons_self,
              ihs fun m hm => ih m (List.mem_cons_of_mem n hm), renders, renders,
              c.kind_stripped, n.kind_stripped]
      rw [Node.stripped, layOut, layOut, begin_stripped, hall, Node.strippedAll_eq,
        List.length_map, c.kind_stripped]
      simp only [restyle_stripped]

theorem render_stripped (n : Node Place) : r.render n.stripped = r.render n := by
  rw [render, render, checkHeight, checkHeight, finish, finish, n.height_stripped, layOut_stripped]

/-- Trees that differ in nothing but what is kept for readers have the same nodes, and each of them
is rendered alike: to the same runs or the same fault, and with the same reports. -/
theorem render_eq_of_stripped_eq {α : Type} (r : Renderer) {tree tree' : Node α}
    (h : tree.stripped = tree'.stripped) {path : List Nat} {n : Node Place}
    (hn : tree.placed.at? path = some n) :
    ∃ n', tree'.placed.at? path = some n' ∧ r.render n' = r.render n := by
  have hplaced : (tree'.placed.at? path).map Node.stripped = some n.stripped := by
    rw [← Node.at?_stripped, Node.placed, Node.stripped_place, ← h, ← Node.stripped_place,
      ← Node.placed, Node.at?_stripped, hn, Option.map_some]
  obtain ⟨n', hn', hstripped⟩ := Option.map_eq_some_iff.mp hplaced
  refine ⟨n', hn', ?_⟩
  rw [← r.render_stripped n', hstripped, r.render_stripped]

end Renderer

/-- A quoted list with everything in it that is kept for readers. -/
def Tree.furnished (start : Int) (task : Option Task) (words : String) : Tree :=
  .branch .blockQuote [
    .branch (.orderedList start) [
      .branch (.listItem task) [
        .leaf (.codeBlock "a" (some words)),
        .leaf (.htmlBlock words),
        .branch .paragraph [
          .branch (.link (some "b c") (some words)) [
            .branch (.image (some words) (some words)) [.text "d"]],
          .leaf (.inlineHtml words)]],
      .branch .paragraph [.text "lost"]]]

/-- The list of a quote is rendered where it stands. -/
theorem Renderer.render_eq_of_stripped_eq_furnished :
    let tree := Tree.furnished 1 none "<b>"
    let tree' := Tree.furnished (-7) (some .checked) "js"
    tree.stripped = tree'.stripped ∧
      ∃ n n', tree.placed.at? [0] = some n ∧ tree'.placed.at? [0] = some n' ∧
        (Renderer.mk {} .fixed).render n' = (Renderer.mk {} .fixed).render n ∧
        ∃ out, ((Renderer.mk {} .fixed).render n).result = .ok out := by
  intro tree tree'
  have hstripped : tree.stripped = tree'.stripped := rfl
  obtain ⟨n, hn⟩ := Option.isSome_iff_exists.mp (show (tree.placed.at? [0]).isSome by decide)
  obtain ⟨n', hn', hrender⟩ :=
    Renderer.render_eq_of_stripped_eq (Renderer.mk {} .fixed) hstripped hn
  refine ⟨hstripped, n, n', hn, hn', hrender, ?_⟩
  cases hn
  exact Traced.exists_result_eq_ok (by decide +kernel)

end RichText
