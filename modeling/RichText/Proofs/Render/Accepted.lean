import RichText.Options.Rendering
import RichText.Proofs.Font.Faces
import RichText.Proofs.Render.Faults

/-! # Renderings with accepted settings

The checks of the settings let sizes through in which the label of a list has no finite width. Such
a list cannot be rendered. With a size that leaves room for all labels every tree can be, if it is
neither too deep nor too far down. -/

namespace RichText

/-- What a list measures for its column: its bullet, or the number of its last child. -/
def Checkpoint.label? (bullet : String) (c : Checkpoint) : Option String :=
  match c.kind with
  | .unorderedList => some bullet
  | .orderedList => some (toString c.children ++ ".")
  | _ => none

/-- The renderer that is made from settings alone, with the standard faces of their families. -/
def RenderingOptions.renderer (o : RenderingOptions) : Renderer where
  options := o
  backend := .standard ⟨o.fontFamily, o.monospaceFamily⟩

namespace RenderingOptions

/-- What the checks of the depth and of the sizes make sure of. -/
structure Checked (o : RenderingOptions) : Prop where
  depth : 0 < o.maxNestingDepth
  base : ¬ o.baseFontSize ≤ 0
  code : ¬ o.baseFontSize - o.codeSizeDelta ≤ 0
  lowest : ¬ o.headingBaseSize - 6 * o.headingSizeStep ≤ 0

variable {o : RenderingOptions}

/-- The checks are made one after the other; each is reached because those before it passed. -/
theorem checked_of_accepted (ho : o.validate.isOk = true) : o.Checked := by
  unfold validate TraversalOptions.validate at ho
  by_cases hdepth : o.maxNestingDepth ≤ 0
  · rw [if_pos hdepth] at ho
    cases ho
  rw [if_neg hdepth] at ho
  change (if _ then _ else _ : Except OptionsFault _).isOk = true at ho
  by_cases hbase : o.baseFontSize ≤ 0
  · rw [if_pos hbase] at ho
    cases ho
  rw [if_neg hbase] at ho
  by_cases hcode : o.baseFontSize - o.codeSizeDelta ≤ 0
  · rw [if_pos hcode] at ho
    cases ho
  rw [if_neg hcode] at ho
  by_cases hlowest : o.headingBaseSize - 6 * o.headingSizeStep ≤ 0
  · rw [if_pos hlowest] at ho
    cases ho
  exact ⟨Int.not_le.mp hdepth, hbase, hcode, hlowest⟩

theorem measure_renderer {face : Font.StandardFace} {font : Font} (hface : font.face = face.name)
    (text : String) :
    (o.renderer.backend.measure text font).value = face.measure text font.size :=
  congrArg Logged.value (Backend.measure_standard _ hface text)

/-- Within reach a checkpoint fails on the width of its label in the face of the family. -/
theorem faultAt?_renderer {face : Font.StandardFace}
    (hface : face.name = (Font.findFace {} o.fontFamily .plain).value) {c : Checkpoint}
    (hc : c.above.length ≤ 10000) :
    o.renderer.faultAt? c =
      (c.label? o.bullet).bind fun label =>
        Renderer.widthFault? (face.measure label o.baseFontSize) := by
  rw [o.renderer.faultAt?_of_near hc]
  obtain ⟨kind, above, followed, children⟩ := c
  cases kind with
  | unorderedList | orderedList =>
      simp only [Renderer.labelWidth?]
      rw [measure_renderer hface.symm]
      rfl
  | _ => rfl

variable {α : Type}

/-- How the rendering of a node ends where nothing but the width of a label can make it fail. -/
structure LimitedByWidths (o : RenderingOptions) (tree : Node α) (path : List Nat)
    (n : Node Place) : Prop where
  ok_iff : ∃ face : Font.StandardFace,
    face.name = (Font.findFace {} o.fontFamily .plain).value ∧
      ((∃ out, (o.renderer.render n).result = .ok out) ↔
        ∀ c ∈ tree.checkpointsAt path, ∀ label, c.label? o.bullet = some label →
          (face.measure label o.baseFontSize).isFinite = true)
  eq_width_of_error : ∀ fault, (o.renderer.render n).result = .error fault →
    ∃ cause, fault = .width cause
  /-- Where a list is come upon, a size that is infinite or no number makes the rendering fail. -/
  isFinite_of_ok : ∀ out, (o.renderer.render n).result = .ok out →
    ∀ c ∈ tree.checkpointsAt path, ∀ label, c.label? o.bullet = some label →
      o.baseFontSize.isFinite = true
  /-- A size that leaves room for all labels lets no rendering fail. -/
  ok_of_le : o.baseFontSize ≤ 1e200 →
    (∀ c ∈ tree.checkpointsAt path, ∀ label, c.label? o.bullet = some label →
      label.length < 2 ^ 64) →
    ∃ out, (o.renderer.render n).result = .ok out

/-- With settings that are accepted and the standard faces, a rendering within the limits of depth
fails if and only if a label has no finite width. -/
theorem limitedByWidths_of_accepted (ho : o.validate.isOk = true) (tree : Node α)
    (path : List Nat) {n : Node Place} (hn : tree.placed.at? path = some n)
    (hheight : n.height ≤ o.maxNestingDepth) (habove : path.length + n.height ≤ 10000) :
    o.LimitedByWidths tree path n := by
  obtain ⟨face, hface⟩ := Font.exists_findFace_eq o.fontFamily .plain
  have hpoint : ∀ c ∈ tree.checkpointsAt path, o.renderer.faultAt? c =
      (c.label? o.bullet).bind fun label =>
        Renderer.widthFault? (face.measure label o.baseFontSize) := by
    intro c hc
    have hlength := Node.length_above_le_of_at? hn hc
    exact faultAt?_renderer hface.symm (by omega)
  have hfault : (o.renderer.render n).fault? =
      (tree.checkpointsAt path).findSome? o.renderer.faultAt? := by
    have hlow : ¬ o.renderer.options.maxNestingDepth < n.height := Int.not_lt.mpr hheight
    rw [o.renderer.fault?_render_of_at? hn, if_neg hlow]
  have hiff : (∃ out, (o.renderer.render n).result = .ok out) ↔
      ∀ c ∈ tree.checkpointsAt path, ∀ label, c.label? o.bullet = some label →
        (face.measure label o.baseFontSize).isFinite = true := by
    rw [← Traced.fault?_eq_none_iff, hfault, List.findSome?_eq_none_iff]
    refine forall₂_congr fun c hc => ?_
    rw [hpoint c hc, Option.bind_eq_none_iff]
    exact forall₂_congr fun label _ => Renderer.widthFault?_eq_none_iff _
  constructor
  case ok_iff => exact ⟨face, hface.symm, hiff⟩
  case eq_width_of_error =>
    intro fault herror
    rw [← Traced.fault?_eq_some_iff, hfault] at herror
    obtain ⟨c, hc, hfaultAt⟩ := List.exists_of_findSome?_eq_some herror
    rw [hpoint c hc] at hfaultAt
    obtain ⟨label, -, hwidth⟩ := Option.bind_eq_some_iff.mp hfaultAt
    exact Renderer.eq_width_of_widthFault? hwidth
  case isFinite_of_ok =>
    intro out hout c hc label hlabel
    have hfinite := hiff.mp ⟨out, hout⟩ c hc label hlabel
    by_contra hsize
    have hinfinite : (face.measure label o.baseFontSize).isFinite = false :=
      Decimal.isFinite_mul _ (eq_false_of_ne_true hsize)
    rw [hinfinite] at hfinite
    cases hfinite
  case ok_of_le =>
    intro hsize hlength
    have hlimit : Decimal.Within 612 1e200 := by decide +kernel
    have hwithin := Decimal.within_of_le hsize (checked_of_accepted ho).base hlimit
    refine hiff.mpr ?_
    intro c hc label hlabel
    have hshort := hlength c hc label hlabel
    exact (face.within_measure hshort hwithin (by decide) (by decide)).isFinite

/-- Settings with an enormous size, which are accepted. -/
def enormous : RenderingOptions := { baseFontSize := 1e200 }

/-- Settings with an infinite size, which are accepted too. -/
def infinite : RenderingOptions := { baseFontSize := 1e999 }

end RenderingOptions

def Tree.listOfText : Tree :=
  .branch .unorderedList [.branch (.listItem none) [.branch .paragraph [.text "a"]]]

/-- In an enormous size a list is rendered. -/
theorem limitedByWidths_of_accepted_enormous :
    RenderingOptions.enormous.validate.isOk = true ∧
      Tree.listOfText.placed.at? [] = some Tree.listOfText.placed ∧
      Tree.listOfText.placed.height ≤ RenderingOptions.enormous.maxNestingDepth ∧
      ([] : List Nat).length + Tree.listOfText.placed.height ≤ 10000 ∧
      ∃ out, (RenderingOptions.enormous.renderer.render Tree.listOfText.placed).result =
        .ok out := by
  have haccepted : RenderingOptions.enormous.validate.isOk = true := by decide +kernel
  have hheight : Tree.listOfText.placed.height ≤ RenderingOptions.enormous.maxNestingDepth := by
    decide
  have habove : ([] : List Nat).length + Tree.listOfText.placed.height ≤ 10000 := by decide
  have hlimited := RenderingOptions.limitedByWidths_of_accepted haccepted Tree.listOfText [] rfl
    hheight habove
  have hlabels : ∀ c ∈ Tree.listOfText.checkpointsAt [],
      ∀ label ∈ c.label? RenderingOptions.enormous.bullet, label.length < 2 ^ 64 := by
    decide +kernel
  exact ⟨haccepted, rfl, hheight, habove, hlimited.ok_of_le (by decide +kernel) hlabels⟩

/-- In an infinite size not even an empty list is rendered. -/
theorem result_render_infinite :
    RenderingOptions.infinite.validate.isOk = true ∧
      (RenderingOptions.infinite.renderer.render (Tree.branch .unorderedList []).placed).result =
        .error (.width .infinite) := by
  refine ⟨by decide +kernel, ?_⟩
  rw [← Traced.fault?_eq_some_iff]
  decide +kernel

end RichText
