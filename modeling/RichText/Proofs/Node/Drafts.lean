import RichText.Node.Build
import RichText.Proofs.Node.Induction

/-! # Drafts of trees

A tree can be taken apart into a draft, in which the ranks of headings are plain integers, and is
built from it again. -/

namespace RichText

def Container.blueprint : Container → Blueprint
  | .heading level => .heading level.val
  | c => .container c

theorem Container.check_blueprint (c : Container) : c.blueprint.check = .ok c := by
  cases c with
  | heading level =>
      have hrank := (HeadingLevel.ofInt?_eq_some_iff level.val level).mpr rfl
      rw [blueprint, Blueprint.check, HeadingLevel.ofInt, hrank]
      rfl
  | _ => rfl

theorem Offer.nodes_map {β : Type} (parent : Kind) (ns : List β) :
    Offer.nodes parent (ns.map .node) = .ok ns := by
  induction ns with
  | nil => rfl
  | cons n ns ih =>
      rw [List.map_cons, Offer.nodes, ih]
      rfl

namespace Node

variable {α : Type}

mutual

def draft : Node α → Draft
  | leaf _ l => .leaf l
  | branch _ c ns => .branch c.blueprint (draftAll ns)

def draftAll : List (Node α) → List (Offer Draft)
  | [] => []
  | n :: ns => .node n.draft :: draftAll ns

end

theorem buildAll_draftAll {ns : List Tree} (ih : ∀ n ∈ ns, (draft n).build = .ok n) :
    Draft.buildAll (draftAll ns) = .ok (ns.map .node) := by
  induction ns with
  | nil => rfl
  | cons n ns ihs =>
      have hn := ih n List.mem_cons_self
      have hns := ihs fun m hm => ih m (List.mem_cons_of_mem n hm)
      rw [draftAll, Draft.buildAll, Draft.buildOffer, hn, hns]
      rfl

/-- No check finds fault with the draft of a tree. -/
theorem build_draft (t : Node Unit) : t.draft.build = .ok t := by
  induction t with
  | leaf m l => rfl
  | branch m c ns ih =>
      rw [draft, Draft.build, buildAll_draftAll ih, Container.check_blueprint]
      have hnodes := Offer.nodes_map c.kind ns
      change (Offer.nodes c.kind (ns.map .node) >>= fun children => pure (Tree.branch c children)) =
        Except.ok (Node.branch m c ns)
      rw [hnodes]
      rfl

end Node

end RichText
