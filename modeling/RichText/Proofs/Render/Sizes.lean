import RichText.Proofs.Decimal.Arithmetic
import RichText.Proofs.Render.Accepted
import RichText.Proofs.Render.Fonts

/-! # Sizes of a rendering

The outermost heading around a run decides its size; where there is none, its origin does. The checks
of the settings look at body text, at code and at headings of the lowest rank. What they say of the
other headings depends on the sign of the step from one rank to the next. -/

namespace RichText

/-- A backend that gives fonts the size it is asked for, and leaves a size alone where it is asked
for none. -/
structure Backend.KeepsSizes (backend : Backend) : Prop where
  systemFont : ∀ size weight, (backend.systemFont size weight).value.size = size
  monospacedFont : ∀ size weight, (backend.monospacedFont size weight).value.size = size
  monospacedDigitFont : ∀ size weight, (backend.monospacedDigitFont size weight).value.size = size
  withTraits : ∀ font traits size,
    (backend.withTraits font traits size).value.size = size.getD font.size

theorem Backend.keepsSizes_ofFaces (families : Families) (face : String → Traits → Logged String)
    (measure : String → Font → Logged Float) : (ofFaces families face measure).KeepsSizes :=
  ⟨fun _ _ => rfl, fun _ _ => rfl, fun _ _ => rfl, fun _ _ _ => rfl⟩

namespace RenderingOptions

/-- All numbers among the settings are finite. -/
structure IsFinite (o : RenderingOptions) : Prop where
  baseFontSize : o.baseFontSize.isFinite = true
  codeSizeDelta : o.codeSizeDelta.isFinite = true
  headingBaseSize : o.headingBaseSize.isFinite = true
  headingSizeStep : o.headingSizeStep.isFinite = true
  baseLeftMargin : o.baseLeftMargin.isFinite = true
  nestingIndent : o.nestingIndent.isFinite = true
  markerSpacing : o.markerSpacing.isFinite = true

variable {o : RenderingOptions}

theorem zero_lt_baseFontSize (hfinite : o.IsFinite) (ho : o.Checked) : 0 < o.baseFontSize :=
  Decimal.zero_lt_of_not_le (Decimal.isNaN_of_isFinite hfinite.baseFontSize) ho.base

theorem zero_lt_codeSize (hfinite : o.IsFinite) (ho : o.Checked) :
    0 < o.baseFontSize - o.codeSizeDelta := by
  have hdelta := Decimal.isNaN_of_isFinite hfinite.codeSizeDelta
  exact Decimal.zero_lt_of_not_le (Decimal.zero_lt_sub_iff hfinite.baseFontSize hdelta).1 ho.code

/-- A heading has a size above zero if what is taken away is less than what it is taken from. -/
theorem zero_lt_headingSize_iff (hfinite : o.IsFinite) {rank : Nat} (hone : 1 ≤ rank)
    (hsix : rank ≤ 6) :
    (o.headingSize rank).isNaN = false ∧
      (0 < o.headingSize rank ↔
        Decimal.value (o.headingSizeStep * Float.ofNat rank) < Decimal.value o.headingBaseSize) := by
  obtain ⟨m, e, hm, hu, -⟩ := Decimal.exists_unpack_ofNat hone hsix
  obtain ⟨r, -, hpacks⟩ := Decimal.exists_packs_mul hfinite.headingSizeStep hu
  exact Decimal.zero_lt_sub_iff hfinite.headingBaseSize hpacks.isNaN_eq

theorem zero_lt_headingSize_six (hfinite : o.IsFinite) (ho : o.Checked) :
    0 < o.headingSize 6 := by
  refine Decimal.zero_lt_of_not_le (zero_lt_headingSize_iff hfinite (by decide) le_rfl).1 ?_
  intro hle
  refine ho.lowest ?_
  have hcomm : 6 * o.headingSizeStep = o.headingSizeStep * Float.ofNat 6 := Decimal.mul_comm _ _
  rwa [hcomm]

/-- Between the highest and the lowest rank sizes change in one direction, so that the two of them
count. -/
theorem zero_lt_headingSize (hfinite : o.IsFinite) (hhighest : 0 < o.headingSize 1)
    (hlowest : 0 < o.headingSize 6) {rank : Nat} (hone : 1 ≤ rank) (hsix : rank ≤ 6) :
    0 < o.headingSize rank := by
  have hstep := hfinite.headingSizeStep
  rw [(zero_lt_headingSize_iff hfinite le_rfl (by decide)).2] at hhighest
  rw [(zero_lt_headingSize_iff hfinite (by decide) le_rfl).2] at hlowest
  rw [(zero_lt_headingSize_iff hfinite hone hsix).2]
  rcases le_total 0 (Decimal.value o.headingSizeStep) with hup | hdown
  · exact ((Decimal.value_mul_ofNat_le hstep hone hsix le_rfl).1 hup).trans_lt hlowest
  · exact ((Decimal.value_mul_ofNat_le hstep le_rfl hone hsix).2 hdown).trans_lt hhighest

/-- If sizes do not grow with the rank, the lowest rank has the least size. -/
theorem zero_lt_headingSize_one (hfinite : o.IsFinite) (hstep : 0 ≤ o.headingSizeStep)
    (hlowest : 0 < o.headingSize 6) : 0 < o.headingSize 1 := by
  rw [(zero_lt_headingSize_iff hfinite le_rfl (by decide)).2]
  rw [(zero_lt_headingSize_iff hfinite (by decide) le_rfl).2] at hlowest
  have hle := (Decimal.value_mul_ofNat_le hfinite.headingSizeStep le_rfl (k := 6) (by decide) le_rfl).1
    (Decimal.value_nonneg_of_le hstep)
  exact hle.trans_lt hlowest

end RenderingOptions

theorem Run.font?_addTraits_eq {run : Run} {font : Font} (h : run.font? = some font)
    (backend : Backend) (traits : Traits) (size : Option Float) :
    (run.addTraits backend traits size).font? =
      some (backend.withTraits font traits size).value := by
  simp only [addTraits, h]
  rfl

namespace Renderer

variable {r : Renderer}

def startSize (r : Renderer) : Origin → Float
  | .code _ => r.options.baseFontSize - r.options.codeSizeDelta
  | _ => r.options.baseFontSize

/-- The size of a piece: that of the outermost heading around it, or the one its run starts with. -/
def sizeOf (r : Renderer) (p : Piece) : Float :=
  (p.headingLevel?.map fun level => r.options.headingSize level.val).getD (r.startSize p.origin)

theorem size_startFont (hb : r.backend.KeepsSizes) (o : Origin) :
    ∃ font, (r.runOf { origin := o }).font? = some font ∧ font.size = r.startSize o := by
  cases o with
  | code s => exact ⟨_, rfl, hb.monospacedFont _ _⟩
  | literal s | gap s => exact ⟨_, rfl, hb.systemFont _ _⟩
  | marker m i =>
      cases m with
      | number depth children => exact ⟨_, rfl, hb.monospacedDigitFont _ _⟩
      | bullet depth | quote depth => exact ⟨_, rfl, hb.systemFont _ _⟩

/-- Of the containers around a run only headings change its size, and the outermost is the last to
do so. -/
theorem exists_font_runOf (hb : r.backend.KeepsSizes) (p : Piece) :
    ∃ font, (r.runOf p).font? = some font ∧ font.size = r.sizeOf p := by
  induction p with
  | bare o => exact size_startFont hb o
  | inside c p ih =>
      obtain ⟨font, hfont, hsize⟩ := ih
      have hlevel := p.headingLevel?_inside c
      rw [runOf_inside]
      cases c with
      | emphasis | strong =>
          refine ⟨_, Run.font?_addTraits_eq hfont _ _ _, ?_⟩
          rw [hb.withTraits, sizeOf, hlevel]
          exact hsize
      | heading level =>
          -- A heading sets the size, whatever the containers inside it have set.
          refine ⟨_, Run.font?_addTraits_eq hfont _ _ _, ?_⟩
          rw [hb.withTraits, sizeOf, hlevel]
          rfl
      | link destination title =>
          refine ⟨font, ?_, ?_⟩
          · rw [← hfont, dress]
            cases (r.linkTarget destination).value <;> rfl
          · rw [sizeOf, hlevel]
            exact hsize
      | _ =>
          refine ⟨font, hfont, ?_⟩
          rw [sizeOf, hlevel]
          exact hsize

theorem zero_lt_sizeOf (hfinite : r.options.IsFinite) (ho : r.options.Checked)
    (hhighest : 0 < r.options.headingSize 1) (p : Piece) : 0 < r.sizeOf p := by
  rw [sizeOf]
  cases p.headingLevel? with
  | some level =>
      exact RenderingOptions.zero_lt_headingSize hfinite hhighest
        (RenderingOptions.zero_lt_headingSize_six hfinite ho) level.one_le level.le_six
  | none =>
      cases p.origin with
      | code s => exact RenderingOptions.zero_lt_codeSize hfinite ho
      | _ => exact RenderingOptions.zero_lt_baseFontSize hfinite ho

end Renderer

def Tree.topHeading : Tree := .branch (.heading .top) [.text "a"]

namespace Renderer

variable (r : Renderer)

/-- Every run of every rendering has a font with a size above zero. -/
def HasPositiveSizes : Prop :=
  ∀ (α : Type) (tree : Node α) (path : List Nat) (n : Node Place) (out : StyledText),
    tree.placed.at? path = some n → (r.render n).result = .ok out →
      ∀ run ∈ out.runs, ∃ font, run.font? = some font ∧ 0 < font.size

variable {r}

/-- A heading of the highest rank is rendered in the size that the settings give it. -/
theorem exists_render_topHeading (hb : r.backend.KeepsSizes)
    (hdepth : 0 < r.options.maxNestingDepth) :
    ∃ out, (r.render Tree.topHeading.placed).result = .ok out ∧
      ∃ run ∈ out.runs, ∃ font, run.font? = some font ∧ font.size = r.options.headingSize 1 := by
  obtain ⟨font, hfont, hsize⟩ := exists_font_runOf hb ⟨.literal "a", [.heading .top]⟩
  refine ⟨⟨[r.runOf ⟨.literal "a", [.heading .top]⟩]⟩, ?_, _, List.mem_singleton_self _, font, hfont,
    hsize⟩
  refine (r.render_eq_ok_iff Tree.topHeading {} _).mpr ⟨hdepth, ?_, rfl⟩
  intro c hc
  obtain rfl := List.mem_singleton.mp hc
  exact r.faultAt?_of_near (Nat.zero_le _)

/-- With accepted settings, all of them finite, all fonts have sizes above zero if and only if
headings of the highest rank have one. If sizes do not grow with the rank, they do. -/
theorem hasPositiveSizes_iff (hb : r.backend.KeepsSizes) (ho : r.options.validate.isOk = true)
    (hfinite : r.options.IsFinite) :
    (r.HasPositiveSizes ↔ 0 < r.options.headingSize 1) ∧
      (0 ≤ r.options.headingSizeStep → r.HasPositiveSizes) := by
  have hchecked := RenderingOptions.checked_of_accepted ho
  have hiff : r.HasPositiveSizes ↔ 0 < r.options.headingSize 1 := by
    constructor
    · intro h
      obtain ⟨out, hout, run, hrun, font, hfont, hsize⟩ :=
        exists_render_topHeading hb hchecked.depth
      obtain ⟨font', hfont', hpos⟩ := h Unit Tree.topHeading [] _ out rfl hout run hrun
      cases hfont.symm.trans hfont'
      rwa [hsize] at hpos
    · intro hhighest α tree path n out hn hout run hrun
      rw [(shows_render hn hout).runs_eq] at hrun
      obtain ⟨p, -, rfl⟩ := List.mem_map.mp hrun
      obtain ⟨font, hfont, hsize⟩ := exists_font_runOf hb p
      exact ⟨font, hfont, hsize ▸ zero_lt_sizeOf hfinite hchecked hhighest p⟩
  refine ⟨hiff, fun hstep => hiff.mpr ?_⟩
  exact RenderingOptions.zero_lt_headingSize_one hfinite hstep
    (RenderingOptions.zero_lt_headingSize_six hfinite hchecked)

end Renderer

/-- Settings with headings that grow with the rank, and with room for the highest. -/
def RenderingOptions.growing : RenderingOptions := { headingBaseSize := 10, headingSizeStep := -1 }

/-- Settings that are accepted because the lowest rank has a size of one point. -/
def RenderingOptions.sinking : RenderingOptions := { headingBaseSize := -5, headingSizeStep := -1 }

theorem hasPositiveSizes_growing :
    let r : Renderer := { options := .growing, backend := .fixed }
    r.backend.KeepsSizes ∧ r.options.validate.isOk = true ∧ r.options.IsFinite ∧
      r.HasPositiveSizes := by
  intro r
  have hb : r.backend.KeepsSizes := Backend.keepsSizes_ofFaces _ _ _
  have haccepted : r.options.validate.isOk = true := by decide +kernel
  have hfinite : r.options.IsFinite := by constructor <;> decide +kernel
  obtain ⟨hiff, -⟩ := Renderer.hasPositiveSizes_iff hb haccepted hfinite
  exact ⟨hb, haccepted, hfinite, hiff.mpr (by decide +kernel)⟩

/-- The checks let settings through with which a heading of the highest rank is rendered in a size of
minus four points. -/
theorem size_render_sinking :
    let r : Renderer := { options := .sinking, backend := .fixed }
    r.backend.KeepsSizes ∧ r.options.validate.isOk = true ∧ r.options.IsFinite ∧
      ∃ out, (r.render Tree.topHeading.placed).result = .ok out ∧
        ∃ run ∈ out.runs, ∃ font, run.font? = some font ∧ font.size = -4 ∧ ¬ 0 < font.size := by
  intro r
  have hb : r.backend.KeepsSizes := Backend.keepsSizes_ofFaces _ _ _
  have hsize : r.options.headingSize 1 = -4 := by decide +kernel
  obtain ⟨out, hout, run, hrun, font, hfont, heq⟩ :=
    Renderer.exists_render_topHeading hb (show 0 < (128 : Int) by decide)
  rw [hsize] at heq
  refine ⟨hb, by decide +kernel, by constructor <;> decide +kernel, out, hout, run, hrun, font, hfont,
    heq, ?_⟩
  rw [heq]
  decide +kernel

end RichText
