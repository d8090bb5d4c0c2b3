import RichText.Backend.Fixed
import RichText.Proofs.Render.Runs

/-! # Reports of a rendering

Besides its fonts, a rendering has two things to report: nodes whose kind has no rendering of its
own, and links that lead nowhere. They are listed here on the way down from the root of a tree: a
node comes before what is below it, and a link behind it. -/

namespace RichText

/-- The report on a node of some kind, if the kind has no rendering of its own. -/
def Kind.reports (kind : Kind) : List Event :=
  if kind.isStyled then [] else [.undedicated kind]

/-- The report on a link whose destination is no target. -/
def Container.reports (safe : Bool) : Container → List Event
  | .link (some destination) _ =>
    match Link.target safe destination with
    | .ok _ => []
    | .error fault => [.linkDropped destination fault]
  | _ => []

namespace Node

variable {α : Type}

mutual

/-- The reports on a node and on all that is shown below it. -/
def reports (safe : Bool) : Node α → List Event
  | leaf _ l => l.kind.reports
  | branch _ c ns => c.kind.reports ++ reportsAll safe c ns ++ c.reports safe

def reportsAll (safe : Bool) (c : Container) : List (Node α) → List Event
  | [] => []
  | n :: ns =>
    if c.shows n.kind then n.reports safe ++ reportsAll safe c ns else reportsAll safe c ns

end

/-- That a tree was rendered is not reported on any of its nodes. -/
theorem rendered_not_mem_reports (safe : Bool) (n : Node α) : Event.rendered ∉ n.reports safe := by
  have hkind : ∀ kind : Kind, Event.rendered ∉ kind.reports := by
    intro kind
    unfold Kind.reports
    split <;> simp
  have hlink : ∀ c : Container, Event.rendered ∉ c.reports safe := by
    intro c
    unfold Container.reports
    split
    · split <;> simp
    · simp
  induction n with
  | leaf m l => exact hkind l.kind
  | branch m c ns ih =>
      have hbelow : Event.rendered ∉ reportsAll safe c ns := by
        induction ns with
        | nil => exact List.not_mem_nil
        | cons n ns ihs =>
            have hrest := ihs fun m hm => ih m (List.mem_cons_of_mem n hm)
            rw [reportsAll]
            split
            · simp [ih n List.mem_cons_self, hrest]
            · exact hrest
      simp [reports, hkind, hlink, hbelow]

end Node

/-- A backend that never has anything to report. -/
structure Backend.IsSilent (b : Backend) : Prop where
  systemFont : ∀ size weight, (b.systemFont size weight).log = []
  monospacedFont : ∀ size weight, (b.monospacedFont size weight).log = []
  monospacedDigitFont : ∀ size weight, (b.monospacedDigitFont size weight).log = []
  withTraits : ∀ font traits size, (b.withTraits font traits size).log = []
  measure : ∀ text font, (b.measure text font).log = []

theorem Backend.isSilent_fixed (families : Families) (advance : Float) :
    (Backend.fixed families advance).IsSilent :=
  ⟨fun _ _ => rfl, fun _ _ => rfl, fun _ _ => rfl, fun _ _ _ => rfl, fun _ _ => rfl⟩

theorem Run.log_mapFonts {change : Font → Logged Font} (h : ∀ font, (change font).log = [])
    (runs : List Run) : (Run.mapFonts change runs).log = [] := by
  induction runs with
  | nil => rfl
  | cons run runs ih =>
      cases hfont : run.font? <;> simp [Run.mapFonts, hfont, h, ih]

namespace Renderer

variable {r : Renderer}

/-! ## The steps of a rendering -/

theorem reports_found {α : Type} (kind : Kind) (o : Option α) : (found kind o).Reports [] := by
  cases o with
  | none => exact Traced.reports_throw _ _
  | some a => exact Traced.reports_pure a

theorem reports_separator (p : Place) (kind : Kind) : (separator p kind).Reports [] := by
  unfold separator
  split
  · cases kind with
    | paragraph | orderedList =>
        exact (reports_found _ p.inList?).bind_nil fun _ => Traced.reports_pure _
    | _ => exact Traced.reports_pure _
  · exact Traced.reports_pure _

theorem reports_layOutAll {c : Container} {ns : List (Node Place)}
    (ih : ∀ n ∈ ns, (r.layOut n).Reports (n.reports r.options.dropUnsafeLinks)) :
    (r.layOutAll c ns).Reports (Node.reportsAll r.options.dropUnsafeLinks c ns) := by
  induction ns with
  | nil => exact Traced.reports_pure []
  | cons n ns ihs =>
      have hrest := ihs fun m hm => ih m (List.mem_cons_of_mem n hm)
      simp only [layOutAll, renders_iff, Node.reportsAll]
      split
      · refine (ih n List.mem_cons_self).bind fun part _ => ?_
        exact hrest.map (part :: ·)
      · exact hrest

section Silent

variable (hsilent : r.backend.IsSilent)
include hsilent

theorem reports_column (text : String) (font : Font) : (r.column text font).Reports [] := by
  refine Traced.reports_liftM_bind (hsilent.measure text font) ?_
  cases Decimal.ceiling (r.backend.measure text font).value with
  | error cause => exact Traced.reports_throw _ _
  | ok column => exact Traced.reports_pure column

/-- The markers of both kinds of lists are made without a report. -/
theorem reports_listMarker {font : Logged Font} (hfont : font.log = []) {kind : Kind} {p : Place}
    {text : String} {make : Font → Nat → Int → Marker} :
    Traced.Reports (liftM font >>= fun f => found kind p.listDepth? >>= fun depth =>
      r.column text f >>= fun column => pure (make f depth column)) [] := by
  refine Traced.reports_liftM_bind hfont ?_
  refine (reports_found kind _).bind_nil fun depth => ?_
  exact (reports_column hsilent text font.value).bind_nil fun column => Traced.reports_pure _

/-- What a container does first reports on its kind. -/
theorem reports_begin (p : Place) (children : Nat) (c : Container) :
    (r.begin p children c).Reports c.kind.reports := by
  cases c with
  | unorderedList =>
      have hfont : r.baseFont.log = [] := hsilent.systemFont _ _
      exact (reports_listMarker hsilent hfont).map some
  | orderedList start =>
      have hfont : r.numeralFont.log = [] := hsilent.monospacedDigitFont _ _
      exact (reports_listMarker hsilent hfont).map some
  | blockQuote =>
      refine Traced.Reports.map ?_ some
      refine (reports_found _ _).bind_nil fun depth => ?_
      exact Traced.reports_liftM_bind (hsilent.systemFont _ _) (Traced.reports_pure _)
  | image source title =>
      exact (Traced.reports_report _).bind_nil fun _ => Traced.reports_pure none
  | _ => exact Traced.reports_pure none

/-- Restyling reports on a link without a target, and on nothing else. -/
theorem log_restyle (text : StyledText) (c : Container) :
    (r.restyle text c).log = c.reports r.options.dropUnsafeLinks := by
  have hfonts : ∀ traits size, (text.addTraits r.backend traits size).log = [] := by
    intro traits size
    have hmap := Run.log_mapFonts (fun font => hsilent.withTraits font traits size) text.runs
    simpa [StyledText.addTraits, StyledText.mapFonts, Functor.map] using hmap
  cases c with
  | emphasis => exact hfonts _ _
  | strong => exact hfonts _ _
  | heading level => exact hfonts _ _
  | link destination title =>
      cases destination with
      | none => rfl
      | some destination =>
          simp only [restyle, linkTarget, Container.reports]
          cases Link.target r.options.dropUnsafeLinks destination <;> rfl
  | _ => rfl

theorem reports_separate (p : Place) (kind : Kind) (text : StyledText) :
    (r.separate p kind text).Reports [] := by
  refine (reports_separator p kind).bind_nil fun gap => ?_
  cases gap with
  | none => exact Traced.reports_pure _
  | some gap => exact Traced.reports_liftM_bind (hsilent.systemFont _ _) (Traced.reports_pure _)

theorem reports_leafText (l : Leaf) : (r.leafText l).Reports l.kind.reports := by
  cases l with
  | text content =>
      exact Traced.reports_liftM_bind (hsilent.systemFont _ _) (Traced.reports_pure _)
  | inlineCode code | codeBlock code language =>
      exact Traced.reports_liftM_bind (hsilent.monospacedFont _ _) (Traced.reports_pure _)
  | _ => exact (Traced.reports_report _).bind_nil fun _ => Traced.reports_pure _

/-! ## The reports of a node -/

theorem reports_layOut (n : Node Place) :
    (r.layOut n).Reports (n.reports r.options.dropUnsafeLinks) := by
  induction n with
  | leaf p l =>
      rw [layOut, Node.reports]
      exact (reports_leafText hsilent l).bind_nil fun text => reports_separate hsilent p l.kind text
  | branch p c ns ih =>
      rw [layOut, Node.reports, List.append_assoc]
      refine (reports_begin hsilent p ns.length c).bind fun marker _ => ?_
      refine (reports_layOutAll ih).bind fun parts _ => ?_
      rw [← List.append_nil (c.reports _)]
      exact Traced.reports_liftM_bind (log_restyle hsilent _ c) (reports_separate hsilent p c.kind _)

end Silent

/-- Once a tree is laid out, one more report follows. -/
theorem finish_eq (n : Node Place) :
    r.finish n =
      match (r.layOut n).result with
      | .error fault => ⟨(r.layOut n).log, .error fault⟩
      | .ok text => ⟨(r.layOut n).log ++ [.rendered], .ok text⟩ := by
  change Traced.andThen _ _ = _
  unfold Traced.andThen
  cases (r.layOut n).result <;> rfl

/-- What a rendering reports. A tree that is too deep is refused without a word. Otherwise the nodes
that are shown are reported on in turn, and at last that the tree is rendered; a rendering that
fails leaves off somewhere before that. -/
theorem log_render (r : Renderer) (hsilent : r.backend.IsSilent) (n : Node Place) :
    Event.rendered ∉ n.reports r.options.dropUnsafeLinks ∧
      (r.options.maxNestingDepth < n.height →
        (r.render n).result = .error (.tooDeep r.options.maxNestingDepth) ∧
          (r.render n).log = []) ∧
      (∀ out, (r.render n).result = .ok out →
        (r.render n).log = n.reports r.options.dropUnsafeLinks ++ [.rendered]) ∧
      ∀ fault, (r.render n).result = .error fault →
        (r.render n).log <+: n.reports r.options.dropUnsafeLinks := by
  refine ⟨n.rendered_not_mem_reports _, ?_⟩
  by_cases hheight : r.options.maxNestingDepth < n.height
  · have hrefused : r.render n = ⟨[], .error (.tooDeep r.options.maxNestingDepth)⟩ := by
      rw [render, checkHeight, if_pos hheight]
      rfl
    rw [hrefused]
    exact ⟨fun _ => ⟨rfl, rfl⟩, nofun, fun _ _ => List.nil_prefix⟩
  · have hfinish : r.render n = r.finish n := by
      rw [render, checkHeight, if_neg hheight]
      rfl
    have hreports := reports_layOut hsilent n
    unfold Traced.Reports at hreports
    rw [hfinish]
    refine ⟨fun hdeep => absurd hdeep hheight, ?_⟩
    cases hresult : (r.layOut n).result with
    | error fault =>
        simp only [hresult] at hreports
        simp only [finish_eq, hresult]
        exact ⟨nofun, fun _ _ => hreports⟩
    | ok text =>
        simp only [hresult] at hreports
        simp only [finish_eq, hresult]
        exact ⟨fun _ _ => congrArg (· ++ _) hreports, nofun⟩

end Renderer

/-- A list of an image, which is not shown, and of an item with a link that leads nowhere around an
image; behind the list a link without a destination around a line. -/
def Tree.listedImages : Tree :=
  .branch .document [
    .branch .unorderedList [
      .branch (.image none none) [.text "lost"],
      .branch (.listItem none) [
        .branch (.link (some "a b") none) [.branch (.image (some "p") none) [.text "x"]]]],
    .branch (.link none none) [.leaf .thematicBreak]]

/-- The image inside the link is reported on before the link. If the bullet has no width, nothing
inside the list is reported on. -/
theorem Renderer.log_render_listedImages :
    let r (advance : Float) : Renderer := { backend := .fixed ⟨"Body", "Mono"⟩ advance }
    (∀ advance, (r advance).backend.IsSilent) ∧
      Tree.listedImages.placed.height ≤ (r 0.5).options.maxNestingDepth ∧
      ((r 0.5).render Tree.listedImages.placed).log =
        [.undedicated .image, .linkDropped "a b" .invalid, .undedicated .thematicBreak,
          .rendered] ∧
      ((r (0.0 / 0.0)).render Tree.listedImages.placed).result = .error (.width .notANumber) ∧
      ((r (0.0 / 0.0)).render Tree.listedImages.placed).log <+:
        [.undedicated .image, .linkDropped "a b" .invalid, .undedicated .thematicBreak] := by
  intro r
  have hsilent : ∀ advance, (r advance).backend.IsSilent := Backend.isSilent_fixed _
  have hreports : Tree.listedImages.placed.reports false =
      [.undedicated .image, .linkDropped "a b" .invalid, .undedicated .thematicBreak] := by
    decide +kernel
  have hfault : ((r (0.0 / 0.0)).render Tree.listedImages.placed).result =
      .error (.width .notANumber) := by
    rw [← Traced.fault?_eq_some_iff]
    decide +kernel
  obtain ⟨out, hout⟩ := Traced.exists_result_eq_ok
    (x := (r 0.5).render Tree.listedImages.placed) (by decide +kernel)
  refine ⟨hsilent, by decide, ?_, hfault, ?_⟩
  · exact ((log_render (r 0.5) (hsilent 0.5) _).2.2.1 out hout).trans (congrArg (· ++ _) hreports)
  · exact hreports ▸ (log_render (r (0.0 / 0.0)) (hsilent _) _).2.2.2 _ hfault

end RichText
