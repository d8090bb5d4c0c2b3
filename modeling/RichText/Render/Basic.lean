import RichText.Options.Rendering
import RichText.Render.Fault
import RichText.Style.Fonts

/-!
Rendering a tree to styled text. A container looks at its surroundings, has its children rendered,
puts a marker before each, restyles the whole and adds a separator if a sibling follows.
-/
namespace RichText

/-- A computation that renders. -/
abbrev Rendering (α : Type) := Traced RenderFault α

structure Renderer where
  options : RenderingOptions := {}
  backend : Backend

/-- What goes before each child of a container; the children are counted from 0. -/
structure Marker where
  attributes : Attributes
  text : Nat → String

namespace Renderer

variable (r : Renderer)

def baseFont : Logged Font := r.backend.systemFont r.options.baseFontSize .regular

def codeFont : Logged Font :=
  r.backend.monospacedFont (r.options.baseFontSize - r.options.codeSizeDelta) .regular

/-- The font of numbers before items. -/
def numeralFont : Logged Font :=
  r.backend.monospacedDigitFont r.options.baseFontSize .regular

def codeAttributes (font : Font) : Attributes :=
  { font := .value font, foregroundColor := .value r.options.mutedColor }

/-- How far markers at a depth are set in. -/
def leftMargin (depth : Nat) : Float :=
  r.options.baseLeftMargin + r.options.nestingIndent * Float.ofNat depth

/-- Markers of a list end at the end of their column, and the text begins a little further on. -/
def listStyle (depth : Nat) (column : Int) : ParagraphStyle :=
  let first := r.leftMargin depth + Float.ofInt column
  let second := first + r.options.markerSpacing
  { tabStops := [⟨.right, first⟩, ⟨.left, second⟩], headIndent := second }

/-- Quoted text begins at the margin of the quote. -/
def quoteStyle (depth : Nat) : ParagraphStyle :=
  let margin := r.leftMargin depth
  { tabStops := [⟨.left, margin⟩], headIndent := margin }

def markerAttributes (font : Font) (depth : Nat) (style : ParagraphStyle) : Attributes :=
  { font := .value font, paragraphStyle := .value style, nestingDepth := .value depth }

/-- What a look at the surroundings finds, or the fault that they have no end. -/
def found {α : Type} (kind : Kind) : Option α → Rendering α
  | some a => pure a
  | none => throw (.endlessAncestors kind)

def column (text : String) (font : Font) : Rendering Int := do
  match Decimal.ceiling (← r.backend.measure text font) with
  | .ok width => pure width
  | .error cause => throw (.width cause)

def bulletMarker (p : Place) : Rendering Marker := do
  let font ← r.baseFont
  let depth ← found .unorderedList p.listDepth?
  let column ← r.column r.options.bullet font
  return ⟨markerAttributes font depth (r.listStyle depth column),
    fun _ => "\t" ++ r.options.bullet ++ "\t"⟩

/-- The marker of the items of an ordered list: their number, in a column as wide as the number of
all children. -/
def numberMarker (p : Place) (children : Nat) : Rendering Marker := do
  let font ← r.numeralFont
  let depth ← found .orderedList p.listDepth?
  let column ← r.column (toString children ++ ".") font
  return ⟨markerAttributes font depth (r.listStyle depth column),
    fun i => "\t" ++ toString (i + 1) ++ ".\t"⟩

def quoteMarker (p : Place) : Rendering Marker := do
  let depth ← found .blockQuote p.quoteDepth?
  let font ← r.baseFont
  return ⟨markerAttributes font depth (r.quoteStyle depth), fun _ => "\t"⟩

/-- What a container does before its children are rendered. -/
def begin (p : Place) (children : Nat) : Container → Rendering (Option Marker)
  | .unorderedList => some <$> r.bulletMarker p
  | .orderedList _ => some <$> r.numberMarker p children
  | .blockQuote => some <$> r.quoteMarker p
  | .image _ _ => do
    .report (.undedicated .image)
    return none
  | _ => pure none

/-- Puts a marker before each part, counting from `i`, and joins them. -/
def join (marker : Option Marker) (i : Nat) : List StyledText → StyledText
  | [] => {}
  | part :: parts =>
    let whole := match marker with
      | some m => .ofText (m.text i) m.attributes ++ part
      | none => part
    whole ++ join marker (i + 1) parts

/-- Where a link leads. A destination that is no target is reported. -/
def linkTarget (destination : Option String) : Logged (Option String) :=
  match destination with
  | none => pure none
  | some destination =>
    match Link.target r.options.dropUnsafeLinks destination with
    | .ok target => pure (some target)
    | .error fault => do
      .report (.linkDropped destination fault)
      return none

/-- What a container does to the text of its children. -/
def restyle (text : StyledText) : Container → Logged StyledText
  | .emphasis => text.addTraits r.backend { italic := true } none
  | .strong => text.addTraits r.backend { bold := true } none
  | .heading level => text.addTraits r.backend { bold := true } (r.options.headingSize level.val)
  | .strikethrough => pure (text.set .strikethrough (.value .single))
  | .blockQuote => pure (text.set .foregroundColor (.value r.options.mutedColor))
  | .link destination _ => do
    let text := text.set .foregroundColor (.value r.options.linkColor)
    match ← r.linkTarget destination with
    | some target => return text.set .link (.value target)
    | none => return text
  | _ => pure text

/-- What goes between a node and the sibling that follows; nothing if none does. -/
def separator (p : Place) (kind : Kind) : Rendering (Option String) :=
  if p.followed then
    match kind with
    | .codeBlock | .listItem => pure (some "\n")
    | .heading | .unorderedList | .blockQuote => pure (some "\n\n")
    | .paragraph | .orderedList => do
      return some (if ← found kind p.inList? then "\n" else "\n\n")
    | _ => pure none
  else pure none

/-- The text with the separator of its node, in the base font. -/
def separate (p : Place) (kind : Kind) (text : StyledText) : Rendering StyledText := do
  match ← separator p kind with
  | some gap => return text ++ .ofText gap { font := .value (← r.baseFont) }
  | none => return text

/-- The text of a leaf, its separator aside. -/
def leafText : Leaf → Rendering StyledText
  | .text content => do return .ofText content { font := .value (← r.baseFont) }
  | .inlineCode code | .codeBlock code _ => do
    return .ofText code (r.codeAttributes (← r.codeFont))
  | l => do
    .report (.undedicated l.kind)
    return {}

/-- Whether a container renders a child: a list renders its items only. -/
def renders (c : Container) (child : Kind) : Bool :=
  !c.kind.isList || child = .listItem

mutual

def layOut : Node Place → Rendering StyledText
  | .leaf p l => do r.separate p l.kind (← r.leafText l)
  | .branch p c ns => do
    let marker ← r.begin p ns.length c
    let parts ← layOutAll c ns
    r.separate p c.kind (← r.restyle (join marker 0 parts) c)

def layOutAll (c : Container) : List (Node Place) → Rendering (List StyledText)
  | [] => pure []
  | n :: ns =>
    if renders c n.kind then do
      let part ← layOut n
      let parts ← layOutAll c ns
      return part :: parts
    else layOutAll c ns

end

/-- A tree may not be deeper than the settings allow. -/
def checkHeight (n : Node Place) : Rendering Unit :=
  if r.options.maxNestingDepth < n.height then throw (.tooDeep r.options.maxNestingDepth)
  else pure ()

/-- The text of a tree that has been checked. -/
def finish (n : Node Place) : Rendering StyledText := do
  let text ← r.layOut n
  .report .rendered
  return text

/-- The text of a node that knows its place, with whatever stands above it. -/
def render (n : Node Place) : Rendering StyledText := do
  r.checkHeight n
  r.finish n

end Renderer

end RichText
