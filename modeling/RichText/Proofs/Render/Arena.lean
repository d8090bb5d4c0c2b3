import RichText.Proofs.Arena.Check
import RichText.Proofs.Render.Faults

/-! # Rendering in an arena

A node of a tree in an arena is rendered as it is in the tree itself: the check of the arena finds
no more than the height, and what is too far up to be looked at makes no difference. -/

namespace RichText

namespace Renderer

variable (r : Renderer)

theorem begin_near (p : Place) (children : Nat) (c : Container) :
    r.begin p.near children c = r.begin p children c := by
  cases c <;>
    simp [begin, bulletMarker, numberMarker, quoteMarker, Place.listDepth?, Place.quoteDepth?]

theorem separate_near (p : Place) (kind : Kind) (text : StyledText) :
    r.separate p.near kind text = r.separate p kind text := by
  have hgap : separator p.near kind = separator p kind := by
    simp only [separator, Place.followed_near, Place.inList?_near]
  rw [separate, separate, hgap]

theorem layOut_near (n : Node Place) : r.layOut (n.map Place.near) = r.layOut n := by
  induction n with
  | leaf p l => simp only [Node.map, layOut, separate_near]
  | branch p c ns ih =>
      have hall : r.layOutAll c (Node.mapAll Place.near ns) = r.layOutAll c ns := by
        induction ns with
        | nil => rfl
        | cons n ns ihs =>
            rw [Node.mapAll, layOutAll, layOutAll, Node.kind_map, ih n List.mem_cons_self,
              ihs fun m hm => ih m (List.mem_cons_of_mem n hm)]
      rw [Node.map, layOut, layOut, begin_near, hall, Node.mapAll_eq, List.length_map]
      simp only [separate_near]

/-- Rendering a node of an arena that holds a tree is rendering the node of the tree. -/
theorem renderIn_eq_render {a : Arena} {root n : Node Ref} {path : List Nat} {n' : Node Place}
    (h : a.HoldsTree root) (hn : root.at? path = some n)
    (hn' : root.placed.at? path = some n') : r.renderIn a n.mark = r.render n' := by
  have hfinish : r.finish (n'.map Place.near) = r.finish n' := by
    rw [finish, finish, layOut_near]
  rw [renderIn, h.check hn, h.placed? hn hn', render, checkHeight, h.height_eq hn hn']
  dsimp only
  rw [hfinish]
  split <;> rfl

/-- How the rendering of a node in a tree ends. A node more levels below it than the settings allow
is found first. Otherwise the first checkpoint with a fault decides, and without one there is a
result. -/
theorem outcome_renderIn {a : Arena} {root n : Node Ref} {path : List Nat} (h : a.HoldsTree root)
    (hn : root.at? path = some n) :
    ((∃ below m, n.at? below = some m ∧ r.options.maxNestingDepth < below.length) →
      (r.renderIn a n.mark).result = .error (.tooDeep r.options.maxNestingDepth) ∧
        (RenderFault.tooDeep r.options.maxNestingDepth).stage? = some .structureCheck) ∧
    ((∀ below m, n.at? below = some m → below.length ≤ r.options.maxNestingDepth) →
      match (root.checkpointsAt path).findSome? r.faultAt? with
      | some fault => (r.renderIn a n.mark).result = .error fault ∧
          (fault.stage? = some .ancestorWalk ∨ ∃ cause, fault = .width cause)
      | none => ∃ out, (r.renderIn a n.mark).result = .ok out) := by
  obtain ⟨q, hn'⟩ := Node.exists_at?_place hn [] false
  have hheight := h.height_eq hn hn'
  have hfault := r.fault?_render_of_at? hn'
  rw [← r.renderIn_eq_render h hn hn', hheight] at hfault
  constructor
  · intro hdeep
    rw [if_pos ((Node.lt_height_iff _ _).mpr hdeep)] at hfault
    exact ⟨(Traced.fault?_eq_some_iff _ _).mp hfault, rfl⟩
  · intro hshallow
    have hlow : ¬ r.options.maxNestingDepth < n.height := by
      intro hlt
      obtain ⟨below, m, hm, hdeep⟩ := (Node.lt_height_iff _ _).mp hlt
      have hle := hshallow below m hm
      omega
    rw [if_neg hlow] at hfault
    cases hfirst : (root.checkpointsAt path).findSome? r.faultAt? with
    | none =>
        rw [hfirst] at hfault
        exact (Traced.fault?_eq_none_iff _).mp hfault
    | some fault =>
        rw [hfirst] at hfault
        obtain ⟨c, -, hc⟩ := List.exists_of_findSome?_eq_some hfirst
        exact ⟨(Traced.fault?_eq_some_iff _ _).mp hfault, r.stage?_faultAt? hc⟩

end Renderer

/-- A quote of a list without items and of a paragraph, in a document. -/
def Node.quotedEmptyList : Node Ref :=
  .branch ⟨0⟩ .document [.branch ⟨1⟩ .blockQuote [
    .branch ⟨2⟩ .unorderedList [], .branch ⟨3⟩ .paragraph []]]

def Arena.ofQuotedEmptyList : Arena where
  cells := #[
    some { content := .container .document, children := [⟨1⟩] },
    some { content := .container .blockQuote, children := [⟨2⟩, ⟨3⟩], parent := some ⟨0⟩ },
    some { content := .container .unorderedList, parent := some ⟨1⟩ },
    some { content := .container .paragraph, parent := some ⟨1⟩, index := 1 }]

theorem Arena.holdsTree_quotedEmptyList :
    Arena.ofQuotedEmptyList.HoldsTree Node.quotedEmptyList := by
  have hlist : Holds ofQuotedEmptyList (.branch ⟨2⟩ .unorderedList []) :=
    .intro rfl (by simp [Node.children]) (by simp [Node.children])
  have hparagraph : Holds ofQuotedEmptyList (.branch ⟨3⟩ .paragraph []) :=
    .intro rfl (by simp [Node.children]) (by simp [Node.children])
  have hquote : Holds ofQuotedEmptyList (.branch ⟨1⟩ .blockQuote [
      .branch ⟨2⟩ .unorderedList [], .branch ⟨3⟩ .paragraph []]) := by
    refine .intro rfl ?_ ?_
    · rintro (_ | _ | i) m hm
      · cases hm
        exact ⟨_, rfl, rfl, rfl⟩
      · cases hm
        exact ⟨_, rfl, rfl, rfl⟩
      · cases hm
    · rintro (_ | _ | i) m hm
      · cases hm
        exact hlist
      · cases hm
        exact hparagraph
      · cases hm
  refine ⟨.intro rfl ?_ ?_, rfl, by decide⟩
  · rintro (_ | i) m hm
    · cases hm
      exact ⟨_, rfl, rfl, rfl⟩
    · cases hm
  · rintro (_ | i) m hm
    · cases hm
      exact hquote
    · cases hm

/-- The bullet of a list is measured even if there is no item. -/
theorem Renderer.outcome_renderIn_quotedEmptyList :
    Arena.ofQuotedEmptyList.HoldsTree Node.quotedEmptyList ∧
      (Node.quotedEmptyList.at? [0]).map Node.mark = some ⟨1⟩ ∧
      ((Renderer.mk {} (.fixed ⟨"Body", "Mono"⟩ (0.0 / 0.0))).renderIn
        Arena.ofQuotedEmptyList ⟨1⟩).result = .error (.width .notANumber) := by
  let r : Renderer := { backend := .fixed ⟨"Body", "Mono"⟩ (0.0 / 0.0) }
  let quote : Node Ref :=
    .branch ⟨1⟩ .blockQuote [.branch ⟨2⟩ .unorderedList [], .branch ⟨3⟩ .paragraph []]
  have hquote : Node.quotedEmptyList.at? [0] = some quote := rfl
  have hshallow : ∀ below m, quote.at? below = some m →
      below.length ≤ r.options.maxNestingDepth := by
    intro below m hm
    have hpath := Node.height_add_length_le hm
    have hheight : (quote.height : Int) ≤ r.options.maxNestingDepth := by decide
    omega
  have hfault : (Node.quotedEmptyList.checkpointsAt [0]).findSome? r.faultAt? =
      some (.width .notANumber) := by decide +kernel
  have hout := (Renderer.outcome_renderIn r Arena.holdsTree_quotedEmptyList hquote).2 hshallow
  rw [hfault] at hout
  exact ⟨Arena.holdsTree_quotedEmptyList, rfl, hout.1⟩

end RichText
