import RichText.Options.Settings
import RichText.Style.Attributes

/-!
Settings for rendering documents.
-/
namespace RichText

structure TraversalOptions where
  maxNestingDepth : Int := 128
deriving BEq

/-- Sizes, spacings, the bullet and the colours of a rendering. The families count only where the
backend is made from the settings. -/
structure RenderingOptions extends TraversalOptions where
  baseFontSize : Float := 15.0
  fontFamily : String := "Helvetica"
  monospaceFamily : String := "Courier"
  codeSizeDelta : Float := 1.0
  headingBaseSize : Float := 28.0
  headingSizeStep : Float := 2.0
  baseLeftMargin : Float := 15.0
  nestingIndent : Float := 20.0
  markerSpacing : Float := 8.0
  bullet : String := "\u2022"
  linkColor : Color := .blue
  mutedColor : Color := .gray
  dropUnsafeLinks : Bool := false
deriving BEq

def TraversalOptions.validate (o : TraversalOptions) : Except OptionsFault TraversalOptions :=
  if o.maxNestingDepth ≤ 0 then .error (.depthNotPositive o.maxNestingDepth) else .ok o

/-- Spacings may be zero. -/
def RenderingOptions.checkSpacing (name : String) (spacing : Float) : Except OptionsFault Unit :=
  if spacing < 0 then .error (.negativeSpacing name spacing) else .ok ()

/-- The point size of a heading, in proportion to its rank. -/
def RenderingOptions.headingSize (o : RenderingOptions) (level : Nat) : Float :=
  o.headingBaseSize - o.headingSizeStep * Float.ofNat level

/-- The settings, once they are found usable. The first check that fails decides, and no check fails
on a value that is no number. -/
def RenderingOptions.validate (o : RenderingOptions) : Except OptionsFault RenderingOptions := do
  let _ ← o.toTraversalOptions.validate
  if o.baseFontSize ≤ 0 then
    .error (.baseSizeNotPositive o.baseFontSize)
  if o.baseFontSize - o.codeSizeDelta ≤ 0 then
    .error (.codeSizeNotPositive o.codeSizeDelta o.baseFontSize)
  if o.headingBaseSize - 6 * o.headingSizeStep ≤ 0 then
    .error (.headingSizeNotPositive o.headingBaseSize o.headingSizeStep)
  checkSpacing "base_left_margin" o.baseLeftMargin
  checkSpacing "nesting_indent" o.nestingIndent
  checkSpacing "marker_spacing" o.markerSpacing
  if o.bullet.isEmpty then
    .error .emptyBullet
  .ok o

inductive TraversalOptions.Field
  | maxNestingDepth
deriving DecidableEq

abbrev TraversalOptions.Field.Value : TraversalOptions.Field → Type
  | .maxNestingDepth => Int

instance : Settings TraversalOptions where
  Field := TraversalOptions.Field
  Value := TraversalOptions.Field.Value
  fields := [.maxNestingDepth]
  name
    | .maxNestingDepth => "max_nesting_depth"
  defaults := {}
  get o
    | .maxNestingDepth => o.maxNestingDepth
  set o
    | .maxNestingDepth, v => { o with maxNestingDepth := v }
  validate := TraversalOptions.validate

inductive RenderingOptions.Field
  | maxNestingDepth
  | baseFontSize
  | fontFamily
  | monospaceFamily
  | codeSizeDelta
  | headingBaseSize
  | headingSizeStep
  | baseLeftMargin
  | nestingIndent
  | markerSpacing
  | bullet
  | linkColor
  | mutedColor
  | dropUnsafeLinks
deriving DecidableEq

abbrev RenderingOptions.Field.Value : RenderingOptions.Field → Type
  | .maxNestingDepth => Int
  | .baseFontSize => Float
  | .fontFamily => String
  | .monospaceFamily => String
  | .codeSizeDelta => Float
  | .headingBaseSize => Float
  | .headingSizeStep => Float
  | .baseLeftMargin => Float
  | .nestingIndent => Float
  | .markerSpacing => Float
  | .bullet => String
  | .linkColor => Color
  | .mutedColor => Color
  | .dropUnsafeLinks => Bool

instance : Settings RenderingOptions where
  Field := RenderingOptions.Field
  Value := RenderingOptions.Field.Value
  fields := [
    .maxNestingDepth, .baseFontSize, .fontFamily, .monospaceFamily, .codeSizeDelta,
    .headingBaseSize, .headingSizeStep, .baseLeftMargin, .nestingIndent, .markerSpacing, .bullet,
    .linkColor, .mutedColor, .dropUnsafeLinks]
  name
    | .maxNestingDepth => "max_nesting_depth"
    | .baseFontSize => "base_font_size"
    | .fontFamily => "font_family"
    | .monospaceFamily => "monospace_family"
    | .codeSizeDelta => "code_size_delta"
    | .headingBaseSize => "heading_base_size"
    | .headingSizeStep => "heading_size_step"
    | .baseLeftMargin => "base_left_margin"
    | .nestingIndent => "nesting_indent"
    | .markerSpacing => "marker_spacing"
    | .bullet => "bullet"
    | .linkColor => "link_color"
    | .mutedColor => "muted_color"
    | .dropUnsafeLinks => "drop_unsafe_links"
  defaults := {}
  get o
    | .maxNestingDepth => o.maxNestingDepth
    | .baseFontSize => o.baseFontSize
    | .fontFamily => o.fontFamily
    | .monospaceFamily => o.monospaceFamily
    | .codeSizeDelta => o.codeSizeDelta
    | .headingBaseSize => o.headingBaseSize
    | .headingSizeStep => o.headingSizeStep
    | .baseLeftMargin => o.baseLeftMargin
    | .nestingIndent => o.nestingIndent
    | .markerSpacing => o.markerSpacing
    | .bullet => o.bullet
    | .linkColor => o.linkColor
    | .mutedColor => o.mutedColor
    | .dropUnsafeLinks => o.dropUnsafeLinks
  set o
    | .maxNestingDepth, v => { o with maxNestingDepth := v }
    | .baseFontSize, v => { o with baseFontSize := v }
    | .fontFamily, v => { o with fontFamily := v }
    | .monospaceFamily, v => { o with monospaceFamily := v }
    | .codeSizeDelta, v => { o with codeSizeDelta := v }
    | .headingBaseSize, v => { o with headingBaseSize := v }
    | .headingSizeStep, v => { o with headingSizeStep := v }
    | .baseLeftMargin, v => { o with baseLeftMargin := v }
    | .nestingIndent, v => { o with nestingIndent := v }
    | .markerSpacing, v => { o with markerSpacing := v }
    | .bullet, v => { o with bullet := v }
    | .linkColor, v => { o with linkColor := v }
    | .mutedColor, v => { o with mutedColor := v }
    | .dropUnsafeLinks, v => { o with dropUnsafeLinks := v }
  validate := RenderingOptions.validate

end RichText
