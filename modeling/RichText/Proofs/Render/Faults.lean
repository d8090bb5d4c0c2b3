import RichText.Backend.Fixed
import RichText.Proofs.Decimal.Ceiling
import RichText.Proofs.Node.Height
import RichText.Proofs.Render.Runs

/-! # Faults of a rendering

A rendering fails at one of its checkpoints, and at the first one that has a fault. Lists and quotes
are checkpoints before their children, and paragraphs behind theirs. A checkpoint is found on the way
down from the root of the tree, with the kinds of all nodes above it. -/

namespace RichText

/-- A node where a rendering may fail: its kind, the kinds of all nodes above it, the nearest first,
whether a sibling comes after it, and how many children it has. -/
structure Checkpoint where
  kind : Kind
  above : List Kind
  followed : Bool
  children : Nat
deriving DecidableEq

namespace Node

variable {α : Type}

mutual

/-- The checkpoints of a node below nodes of the given kinds, in the order they are come upon. -/
def checkpoints (above : List Kind) (followed : Bool) : Node α → List Checkpoint
  | leaf _ _ => []
  | branch _ c ns =>
    let own : Checkpoint := ⟨c.kind, above, followed, ns.length⟩
    let below := checkpointsAll c (c.kind :: above) ns
    if c.kind = .paragraph then below ++ [own] else own :: below

def checkpointsAll (c : Container) (above : List Kind) : List (Node α) → List Checkpoint
  | [] => []
  | n :: ns =>
    if c.shows n.kind then n.checkpoints above (!ns.isEmpty) ++ checkpointsAll c above ns
    else checkpointsAll c above ns

end

def checkpointsAt (root : Node α) (path : List Nat) : List Checkpoint :=
  match root.scoped? {} path with
  | some (s, n) => n.checkpoints (root.kindsAbove path).reverse s.followed
  | none => []

theorem exists_mem_of_mem_checkpointsAll {container : Container} {above : List Kind}
    {ns : List (Node α)} {c : Checkpoint} (hc : c ∈ checkpointsAll container above ns) :
    ∃ n ∈ ns, ∃ followed, c ∈ n.checkpoints above followed := by
  induction ns with
  | nil => cases hc
  | cons n ns ih =>
      have hrest : c ∈ checkpointsAll container above ns →
          ∃ m ∈ n :: ns, ∃ followed, c ∈ m.checkpoints above followed := by
        intro hc
        obtain ⟨m, hm, hbelow⟩ := ih hc
        exact ⟨m, List.mem_cons_of_mem n hm, hbelow⟩
      rw [checkpointsAll] at hc
      split at hc
      · rcases List.mem_append.mp hc with hc | hc
        · exact ⟨n, List.mem_cons_self, _, hc⟩
        · exact hrest hc
      · exact hrest hc

/-- No more nodes are above a checkpoint than above the root and on the longest path. -/
theorem length_above_le {n : Node α} {above : List Kind} {followed : Bool} {c : Checkpoint}
    (hc : c ∈ n.checkpoints above followed) : c.above.length ≤ above.length + n.height := by
  induction n generalizing above followed with
  | leaf m l => cases hc
  | branch m container ns ih =>
      have hbelow : c ∈ checkpointsAll container (container.kind :: above) ns →
          c.above.length ≤ above.length + heightAll ns := by
        intro hc
        obtain ⟨n, hn, followed, hc⟩ := exists_mem_of_mem_checkpointsAll hc
        have hle := ih n hn hc
        obtain ⟨i, hi⟩ := List.mem_iff_getElem?.mp hn
        have hlower := height_lt_heightAll hi
        rw [List.length_cons] at hle
        omega
      rw [height]
      rw [checkpoints] at hc
      split at hc
      · rcases List.mem_append.mp hc with hc | hc
        · exact hbelow hc
        · obtain rfl := List.mem_singleton.mp hc
          exact Nat.le_add_right _ _
      · rcases List.mem_cons.mp hc with rfl | hc
        · exact Nat.le_add_right _ _
        · exact hbelow hc

/-- The checkpoints at the end of a path are those of the node there, below all nodes on the way. -/
theorem exists_checkpointsAt_eq {tree : Node α} {path : List Nat} {n : Node Place}
    (hn : tree.placed.at? path = some n) :
    ∃ (p : Place) (n' : Node α), n = n'.place p.above p.followed ∧
      tree.checkpointsAt path = n'.checkpoints p.above p.followed ∧
        p.above.length ≤ path.length := by
  obtain ⟨p, n', hplace, hscoped, habove⟩ := exists_scoped?_of_at?_place (p := {}) hn
  have hscoped' : tree.scoped? {} path = some (p.scope, n') := hscoped
  have hreverse : p.above = (tree.kindsAbove path).reverse := habove.trans (List.append_nil _)
  refine ⟨p, n', hplace, ?_, ?_⟩
  · rw [checkpointsAt, hscoped', ← hreverse]
    rfl
  · rw [hreverse, List.length_reverse]
    exact tree.length_kindsAbove_le path

theorem length_above_le_of_at? {tree : Node α} {path : List Nat} {n : Node Place} {c : Checkpoint}
    (hn : tree.placed.at? path = some n) (hc : c ∈ tree.checkpointsAt path) :
    c.above.length ≤ path.length + n.height := by
  obtain ⟨p, n', rfl, hpoints, hpath⟩ := exists_checkpointsAt_eq hn
  rw [hpoints] at hc
  have hle := length_above_le hc
  rw [height_place]
  omega

end Node

namespace Renderer

variable (r : Renderer)

/-- The fault of a measured width that is not finite. -/
def widthFault? (width : Float) : Option RenderFault :=
  if width.isNaN then some (.width .notANumber)
  else if width.isInf then some (.width .infinite)
  else none

theorem widthFault?_eq_none_iff (width : Float) :
    widthFault? width = none ↔ width.isFinite = true := by
  change (if width.toModel.unpack.isNaN then _ else if width.toModel.unpack.isInf then _ else _) =
    none ↔ width.toModel.unpack.isFinite = true
  cases width.toModel.unpack with
  | zero s => exact iff_of_true rfl rfl
  | finite s m e hm => exact iff_of_true rfl rfl
  | infinity s => exact iff_of_false nofun nofun
  | notANumber => exact iff_of_false nofun nofun

theorem eq_width_of_widthFault? {width : Float} {fault : RenderFault}
    (h : widthFault? width = some fault) : ∃ cause, fault = .width cause := by
  unfold widthFault? at h
  split at h
  · exact ⟨_, (Option.some.inj h).symm⟩
  · split at h
    · exact ⟨_, (Option.some.inj h).symm⟩
    · cases h

/-- The fault at a checkpoint. Lists and quotes look at all nodes above them; lists measure their
bullet or their highest number then. A paragraph with a sibling after it looks for a list above
it. -/
def faultAt? (c : Checkpoint) : Option RenderFault :=
  let endless := some (.endlessAncestors c.kind)
  match c.kind with
  | .unorderedList =>
    if 10000 < c.above.length then endless
    else widthFault? (r.backend.measure r.options.bullet r.baseFont.value).value
  | .orderedList =>
    if 10000 < c.above.length then endless
    else widthFault? (r.backend.measure (toString c.children ++ ".") r.numeralFont.value).value
  | .blockQuote => if 10000 < c.above.length then endless else none
  | .paragraph =>
    if c.followed ∧ 10000 < c.above.length ∧ ∀ kind ∈ c.above.take 10000, ¬ kind.isList then endless
    else none
  | _ => none

def labelWidth? (c : Checkpoint) : Option Float :=
  match c.kind with
  | .unorderedList => some (r.backend.measure r.options.bullet r.baseFont.value).value
  | .orderedList =>
    some (r.backend.measure (toString c.children ++ ".") r.numeralFont.value).value
  | _ => none

/-- Within reach a checkpoint fails on the width of a label only. -/
theorem faultAt?_of_near {c : Checkpoint} (hc : c.above.length ≤ 10000) :
    r.faultAt? c = (r.labelWidth? c).bind widthFault? := by
  have hnear : ¬ 10000 < c.above.length := by omega
  obtain ⟨kind, above, followed, children⟩ := c
  cases kind with
  | unorderedList | orderedList | blockQuote => exact if_neg hnear
  | paragraph => exact if_neg fun h => hnear h.2.1
  | _ => rfl

/-! ## The steps of a rendering -/

theorem fault?_column (text : String) (font : Font) :
    (r.column text font).fault? = widthFault? (r.backend.measure text font).value := by
  have hresult := r.result_column text font
  unfold widthFault?
  rcases Decimal.ceiling_eq (r.backend.measure text font).value with
    ⟨hnan, hceiling⟩ | ⟨hnan, hinf, hceiling⟩ | ⟨hnan, hinf, width, hceiling⟩
  · rw [hceiling] at hresult
    rw [if_pos hnan]
    exact (Traced.fault?_eq_some_iff _ _).mpr hresult
  · rw [hceiling] at hresult
    rw [hnan, if_neg Bool.false_ne_true, if_pos hinf]
    exact (Traced.fault?_eq_some_iff _ _).mpr hresult
  · rw [hceiling] at hresult
    rw [hnan, hinf, if_neg Bool.false_ne_true, if_neg Bool.false_ne_true]
    exact (Traced.fault?_eq_none_iff _).mpr ⟨width, hresult⟩

/-- Counting the nodes above a node fails if and only if there are too many. -/
theorem fault?_found_depthIn? (kind : Kind) (p : Place) (counts : Kind → Bool) :
    (found kind (p.depthIn? counts)).fault? =
      if 10000 < p.above.length then some (.endlessAncestors kind) else none := by
  by_cases h : p.above.length ≤ 10000
  · have hsome : p.depthIn? counts = some (p.above.countP counts) := by
      simp [Place.depthIn?, Place.ancestors?, Place.reach, h]
    rw [hsome, if_neg (by omega)]
    rfl
  · have hnone : p.depthIn? counts = none := by
      simp [Place.depthIn?, Place.ancestors?, Place.reach, h]
    rw [hnone, if_pos (by omega)]
    rfl

/-- Where a node does not find out whether it is in a list, there is none within reach, and there
are nodes beyond. -/
theorem fault?_found_inList? (kind : Kind) (p : Place) :
    (found kind p.inList?).fault? =
      if 10000 < p.above.length ∧ ∀ kind ∈ p.above.take 10000, ¬ kind.isList then
        some (.endlessAncestors kind)
      else none := by
  unfold Place.inList? Place.ancestors? Place.reach
  by_cases hlist : (p.above.take 10000).any (·.isList)
  · obtain ⟨kind', hmem, hkind⟩ := List.any_eq_true.mp hlist
    rw [if_pos hlist, if_neg]
    · rfl
    · rintro ⟨-, hnone⟩
      exact hnone kind' hmem hkind
  · have hnone : ∀ kind ∈ p.above.take 10000, ¬ kind.isList :=
      fun kind' hmem hkind => hlist (List.any_eq_true.mpr ⟨kind', hmem, hkind⟩)
    rw [if_neg hlist]
    by_cases hlength : p.above.length ≤ 10000
    · rw [if_pos hlength, if_neg (fun h => absurd h.1 (by omega))]
      rfl
    · rw [if_neg hlength, if_pos ⟨by omega, hnone⟩]
      rfl

/-- The markers of both kinds of lists: the nodes above the list are counted, and the column is
measured if that succeeds. -/
theorem fault?_listMarker {font : Logged Font} {kind : Kind} {p : Place} {text : String}
    {make : Font → Nat → Int → Marker} :
    Traced.fault? (liftM font >>= fun f => found kind p.listDepth? >>= fun depth =>
      r.column text f >>= fun column => pure (make f depth column)) =
        if 10000 < p.above.length then some (.endlessAncestors kind)
        else widthFault? (r.backend.measure text font.value).value := by
  have hcolumn : ∀ depth, Traced.fault? (r.column text font.value >>= fun column =>
      pure (make font.value depth column)) =
        widthFault? (r.backend.measure text font.value).value := by
    intro depth
    rw [Traced.fault?_bind (o := none) fun _ _ => rfl, r.fault?_column, Option.or_none]
  rw [Traced.fault?_liftM_bind, Traced.fault?_bind fun depth _ => hcolumn depth,
    Place.listDepth?, fault?_found_depthIn?]
  split <;> rfl

/-- A container that is a checkpoint before its children fails there. -/
theorem fault?_begin (p : Place) (children : Nat) (c : Container) :
    (r.begin p children c).fault? =
      if c.kind = .paragraph then none
      else r.faultAt? ⟨c.kind, p.above, p.followed, children⟩ := by
  cases c with
  | unorderedList => exact (Traced.fault?_map _ _).trans r.fault?_listMarker
  | orderedList start => exact (Traced.fault?_map _ _).trans r.fault?_listMarker
  | blockQuote =>
      refine (Traced.fault?_map _ _).trans ?_
      unfold quoteMarker
      rw [Traced.fault?_bind (o := none) fun _ _ => rfl, Option.or_none, Place.quoteDepth?,
        fault?_found_depthIn?]
      rfl
  | _ => rfl

theorem fault?_separate (p : Place) (kind : Kind) (text : StyledText) :
    (r.separate p kind text).fault? = (separator p kind).fault? := by
  unfold separate
  rw [Traced.fault?_bind (o := none), Option.or_none]
  intro gap _
  cases gap <;> rfl

/-- Looking for the separator of a node fails for paragraphs only, if the nodes above an ordered list
were counted before. -/
theorem fault?_separator (p : Place) (children : Nat) (kind : Kind)
    (hcounted : kind = .orderedList → p.above.length ≤ 10000) :
    (separator p kind).fault? =
      if kind = .paragraph then r.faultAt? ⟨kind, p.above, p.followed, children⟩ else none := by
  unfold separator
  by_cases hf : p.followed = true
  · rw [if_pos hf]
    cases kind with
    | paragraph =>
        rw [Traced.fault?_bind (o := none) fun _ _ => rfl, Option.or_none, fault?_found_inList?]
        simp [faultAt?, hf]
    | orderedList =>
        have hwithin := hcounted rfl
        rw [Traced.fault?_bind (o := none) fun _ _ => rfl, Option.or_none, fault?_found_inList?,
          if_neg (fun h => absurd h.1 (by omega))]
        rfl
    | _ => rfl
  · rw [if_neg hf]
    cases kind with
    | paragraph => simp [faultAt?, hf]
    | _ => rfl

/-! ## The faults of a node -/

section Nodes

variable {α : Type}

theorem fault?_layOutAll {c : Container} {p : Place} {ns : List (Node α)}
    (ih : ∀ n ∈ ns, ∀ q : Place, (r.layOut (n.place q.above q.followed)).fault? =
      (n.checkpoints q.above q.followed).findSome? r.faultAt?) :
    (r.layOutAll c (Node.placeAll (c.kind :: p.above) ns)).fault? =
      (Node.checkpointsAll c (c.kind :: p.above) ns).findSome? r.faultAt? := by
  induction ns with
  | nil => rfl
  | cons n ns ihs =>
      have ihs := ihs fun m hm => ih m (List.mem_cons_of_mem n hm)
      simp only [Node.placeAll, layOutAll, Node.kind_place, renders_iff, Node.checkpointsAll]
      by_cases hshow : c.shows n.kind
      · have hn := ih n List.mem_cons_self ⟨c.kind :: p.above, !ns.isEmpty⟩
        rw [if_pos hshow, if_pos hshow, List.findSome?_append, ← hn, ← ihs]
        apply Traced.fault?_bind
        intro part _
        rw [Traced.fault?_bind (o := none) fun _ _ => rfl, Option.or_none]
      · rw [if_neg hshow, if_neg hshow]
        exact ihs

/-- A rendering ends with the fault of the first of its checkpoints that has one. -/
theorem fault?_layOut (n : Node α) (p : Place) :
    (r.layOut (n.place p.above p.followed)).fault? =
      (n.checkpoints p.above p.followed).findSome? r.faultAt? := by
  induction n generalizing p with
  | leaf m l =>
      have hleaf : (r.leafText l).fault? = none := by
        obtain ⟨text, htext, -⟩ := r.shows_leafText l
        exact (Traced.fault?_eq_none_iff _).mpr ⟨text, htext⟩
      have hkind : l.kind ≠ .paragraph ∧ l.kind ≠ .orderedList := by
        cases l <;> simp [Leaf.kind]
      have hgap := r.fault?_separator p 0 l.kind fun h => absurd h hkind.2
      rw [if_neg hkind.1] at hgap
      rw [Node.place, layOut, Traced.fault?_bind fun text _ => r.fault?_separate p l.kind text,
        hleaf, hgap]
      rfl
  | branch m c ns ih =>
      have hbegin := r.fault?_begin p ns.length c
      -- Once the nodes above a container were counted, its separator cannot fail on them.
      have hcounted : ∀ marker, (r.begin p ns.length c).result = .ok marker →
          c.kind = .orderedList → p.above.length ≤ 10000 := by
        intro marker hmarker hkind
        rw [(Traced.fault?_eq_none_iff _).mpr ⟨marker, hmarker⟩, hkind] at hbegin
        by_contra hlength
        simp [faultAt?, Nat.lt_of_not_le hlength] at hbegin
      have hrest : ∀ marker, (r.begin p ns.length c).result = .ok marker →
          Traced.fault? (r.layOutAll c (Node.placeAll (c.kind :: p.above) ns) >>= fun parts =>
            liftM (r.restyle (join marker 0 parts) c) >>= r.separate p c.kind) =
          (r.layOutAll c (Node.placeAll (c.kind :: p.above) ns)).fault?.or
            (if c.kind = .paragraph then r.faultAt? ⟨c.kind, p.above, p.followed, ns.length⟩
              else none) := by
        intro marker hmarker
        apply Traced.fault?_bind
        intro parts _
        rw [Traced.fault?_liftM_bind, r.fault?_separate,
          r.fault?_separator p ns.length c.kind (hcounted marker hmarker)]
      rw [Node.place, layOut, Node.length_placeAll, Traced.fault?_bind hrest, hbegin,
        r.fault?_layOutAll ih, Node.checkpoints]
      by_cases hkind : c.kind = .paragraph
      · simp [hkind, List.findSome?_append]
      · simp only [hkind, if_false, Option.or_none, List.findSome?_cons]
        cases r.faultAt? ⟨c.kind, p.above, p.followed, ns.length⟩ <;> rfl

/-- A tree that is too deep is found so before anything else. -/
theorem fault?_render (n : Node α) (p : Place) :
    (r.render (n.place p.above p.followed)).fault? =
      if r.options.maxNestingDepth < (n.place p.above p.followed).height then
        some (.tooDeep r.options.maxNestingDepth)
      else (n.checkpoints p.above p.followed).findSome? r.faultAt? := by
  have hfinish : (r.finish (n.place p.above p.followed)).fault? =
      (n.checkpoints p.above p.followed).findSome? r.faultAt? := by
    unfold finish
    rw [Traced.fault?_bind (o := none) fun _ _ => rfl, Option.or_none, r.fault?_layOut]
  unfold render checkHeight
  rw [Traced.fault?_bind fun _ _ => hfinish]
  split <;> rfl

/-- A rendering succeeds if and only if the tree is not too deep and no checkpoint has a fault, and
then it has one run for each piece. -/
theorem render_eq_ok_iff (n : Node α) (p : Place) (out : StyledText) :
    (r.render (n.place p.above p.followed)).result = .ok out ↔
      (n.place p.above p.followed).height ≤ r.options.maxNestingDepth ∧
        (∀ c ∈ n.checkpoints p.above p.followed, r.faultAt? c = none) ∧
          out.runs = (n.pieces p.scope).map r.runOf := by
  have hfault := r.fault?_render n p
  constructor
  · intro h
    rw [(Traced.fault?_eq_none_iff _).mpr ⟨out, h⟩] at hfault
    split at hfault
    · cases hfault
    · rename_i hheight
      exact ⟨Int.not_lt.mp hheight, List.findSome?_eq_none_iff.mp hfault.symm,
        (shows_layOut n p out (layOut_of_render h)).runs_eq⟩
  · rintro ⟨hheight, hnone, hruns⟩
    rw [if_neg (Int.not_lt.mpr hheight), List.findSome?_eq_none_iff.mpr hnone] at hfault
    obtain ⟨out', hout'⟩ := (Traced.fault?_eq_none_iff _).mp hfault
    have hruns' := (shows_layOut n p out' (layOut_of_render hout')).runs_eq
    have hout : out = out' := congrArg StyledText.mk (hruns.trans hruns'.symm)
    rw [hout, hout']

/-- What a checkpoint finds fault with is the number of nodes above it or a measured width. -/
theorem stage?_faultAt? {c : Checkpoint} {fault : RenderFault} (h : r.faultAt? c = some fault) :
    fault.stage? = some .ancestorWalk ∨ ∃ cause, fault = .width cause := by
  obtain ⟨kind, above, followed, children⟩ := c
  cases kind with
  | unorderedList | orderedList =>
      simp only [faultAt?] at h
      split at h
      · exact .inl (Option.some.inj h ▸ rfl)
      · exact .inr (eq_width_of_widthFault? h)
  | blockQuote | paragraph =>
      simp only [faultAt?] at h
      split at h
      · exact .inl (Option.some.inj h ▸ rfl)
      · cases h
  | _ => cases h

/-- How the rendering of a node ends is found on the way down to it and below it. -/
theorem fault?_render_of_at? {tree : Node α} {path : List Nat} {n : Node Place}
    (hn : tree.placed.at? path = some n) :
    (r.render n).fault? =
      if r.options.maxNestingDepth < n.height then some (.tooDeep r.options.maxNestingDepth)
      else (tree.checkpointsAt path).findSome? r.faultAt? := by
  obtain ⟨p, n', rfl, hpoints, -⟩ := Node.exists_checkpointsAt_eq hn
  rw [hpoints]
  exact r.fault?_render n' p

end Nodes

end Renderer

end RichText
