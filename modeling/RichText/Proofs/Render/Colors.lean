import RichText.Backend.Fixed
import RichText.Proofs.Render.Attributes

/-! # Colours, link targets and strikethrough of a rendering

Links and quotes colour what is inside them, and the outermost of them decides. Among the links the
outermost one that has a target decides where a run leads, so colour and target of a run may come
from different links. -/

namespace RichText

namespace Renderer

variable (r : Renderer)

/-- What is known of colour, link target and strikethrough of a piece. -/
structure ColorsOf (p : Piece) (a : Attributes) : Prop where
  color_eq : a.foregroundColor = match p.within.findSome? r.color? with
    | some color => .value color
    | none =>
      match p.origin with
      | .code _ => .value r.options.mutedColor
      | _ => .absent
  link_eq : a.link = match p.within.findSome? (·.target? r.options.dropUnsafeLinks) with
    | some target => .value target
    | none => .absent
  strikethrough_eq : a.strikethrough =
    if ∃ c ∈ p.within, c.kind = .strikethrough then .value .single else .absent

theorem originAttributes_foregroundColor (o : Origin) :
    (r.originAttributes o).foregroundColor = match o with
      | .code _ => .value r.options.mutedColor
      | _ => .absent := by
  cases o with
  | marker m i => cases m <;> rfl
  | _ => rfl

/-- Nothing starts out linked or struck through. -/
theorem originAttributes_plain (o : Origin) :
    (r.originAttributes o).link = .absent ∧ (r.originAttributes o).strikethrough = .absent := by
  cases o with
  | marker m i => cases m <;> exact ⟨rfl, rfl⟩
  | _ => exact ⟨rfl, rfl⟩

theorem colorsOf_runOf (p : Piece) : r.ColorsOf p (r.runOf p).attributes where
  color_eq := by
    have h : (r.runOf p).attributes.foregroundColor =
        ((p.within.findSome? r.color?).map .value).getD
          (r.originAttributes p.origin).foregroundColor :=
      r.get_runOf p (k := .foregroundColor) (by decide)
    rw [h, r.originAttributes_foregroundColor]
    cases p.within.findSome? r.color? <;> rfl
  link_eq := by
    have h : (r.runOf p).attributes.link =
        ((p.within.findSome? (·.target? r.options.dropUnsafeLinks)).map .value).getD
          (r.originAttributes p.origin).link :=
      r.get_runOf p (k := .link) (by decide)
    rw [h, (r.originAttributes_plain p.origin).1]
    cases p.within.findSome? (·.target? r.options.dropUnsafeLinks) <;> rfl
  strikethrough_eq := by
    have h : (r.runOf p).attributes.strikethrough =
        ((p.within.findSome? fun c =>
          if c.kind = .strikethrough then some StrikeStyle.single else none).map .value).getD
            (r.originAttributes p.origin).strikethrough :=
      r.get_runOf p (k := .strikethrough) (by decide)
    rw [h, (r.originAttributes_plain p.origin).2]
    cases hfound : p.within.findSome? fun c =>
        if c.kind = .strikethrough then some StrikeStyle.single else none with
    | none =>
        rw [if_neg]
        · rfl
        · rintro ⟨c, hc, hkind⟩
          have hnone := List.findSome?_eq_none_iff.mp hfound c hc
          simp [hkind] at hnone
    | some style =>
        obtain ⟨c, hc, hstyle⟩ := List.exists_of_findSome?_eq_some hfound
        have hkind : c.kind = .strikethrough := by
          by_contra hkind
          simp [hkind] at hstyle
        rw [if_pos ⟨c, hc, hkind⟩]
        cases style
        rfl

/-- Colour, link target and strikethrough of every run of a node are decided by the containers
around it in the node. -/
theorem colors_render {α : Type} (tree : Node α) (path : List Nat) {n : Node Place}
    {out : StyledText} (hn : tree.placed.at? path = some n) (h : (r.render n).result = .ok out) :
    List.Forall₂ (fun p run => r.ColorsOf p run.attributes) (tree.piecesAt path) out.runs := by
  apply (shows_render hn h).forall₂
  intro p _ _
  exact r.colorsOf_runOf p

end Renderer

/-- A link with a blank in its destination around a link without, which holds a quote of code. -/
def Tree.nestedLinks : Tree :=
  .branch (.link (some "not a target") none) [
    .text "a",
    .branch (.link (some "target") none) [
      .branch .strikethrough [.branch .blockQuote [.leaf (.inlineCode "b")]]]]

/-- Of the two links the outer one gives its colour and the inner one its target. -/
theorem colors_render_nestedLinks :
    Tree.nestedLinks.placed.at? [] = some Tree.nestedLinks.placed ∧
      ∃ out run,
        ((Renderer.mk {} .fixed).render Tree.nestedLinks.placed).result = .ok out ∧
        out.runs[2]? = some run ∧ run.attributes.foregroundColor = .value .blue ∧
        run.attributes.link = .value "target" ∧ run.attributes.strikethrough = .value .single := by
  obtain ⟨out, hout⟩ := Traced.exists_result_eq_ok
    (x := (Renderer.mk {} .fixed).render Tree.nestedLinks.placed) (by decide +kernel)
  have hcolors := Renderer.colors_render _ Tree.nestedLinks [] rfl hout
  have hpiece : (Tree.nestedLinks.piecesAt [])[2]? =
      some ⟨.code "b", [.link (some "not a target") none, .link (some "target") none,
        .strikethrough, .blockQuote]⟩ := rfl
  obtain ⟨run, hrun, hcolor⟩ := Renderer.exists_run hcolors hpiece
  have htarget : (Piece.mk (.code "b") [.link (some "not a target") none,
      .link (some "target") none, .strikethrough, .blockQuote]).within.findSome?
        (·.target? (Renderer.mk {} .fixed).options.dropUnsafeLinks) = some "target" := by
    decide +kernel
  have hlink := hcolor.link_eq
  rw [htarget] at hlink
  exact ⟨rfl, out, run, hout, hrun, hcolor.color_eq, hlink, hcolor.strikethrough_eq⟩

end RichText
