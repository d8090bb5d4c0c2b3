import RichText.Font.Basic

/-!
The attributes of a piece of text. An attribute is left out, or set to nothing, or has a value.
-/
namespace RichText

inductive Color
  | gray
  | blue
deriving DecidableEq

/-- Red, green and blue, two hexadecimal digits each. -/
def Color.hex : Color → String
  | gray => "#8E8E93"
  | blue => "#007AFF"

inductive StrikeStyle
  | single
deriving DecidableEq

/-- Which edge of a text a tab stop holds. -/
inductive Alignment
  | left
  | right
deriving DecidableEq

/-- A position that a tab leads to, in points. -/
structure TabStop where
  alignment : Alignment
  location : Float
deriving BEq

/-- Tab stops in order, and how far the lines after the first are set in. -/
structure ParagraphStyle where
  tabStops : List TabStop := []
  headIndent : Float := 0.0
deriving BEq

inductive Key
  | font
  | foregroundColor
  | strikethrough
  | link
  | paragraphStyle
  | nestingDepth
deriving DecidableEq

namespace Key

def all : List Key := [font, foregroundColor, strikethrough, link, paragraphStyle, nestingDepth]

/-- The name of an attribute in descriptions of a text. -/
def name : Key → String
  | font => "font"
  | foregroundColor => "foreground_color"
  | strikethrough => "strikethrough"
  | link => "link"
  | paragraphStyle => "paragraph_style"
  | nestingDepth => "nesting_depth"

def ofName? (name : String) : Option Key := all.find? (·.name == name)

abbrev Value : Key → Type
  | font => Font
  | foregroundColor => Color
  | strikethrough => StrikeStyle
  | link => String
  | paragraphStyle => ParagraphStyle
  | nestingDepth => Int

instance (k : Key) : BEq k.Value :=
  match k with
  | font => inferInstanceAs (BEq Font)
  | foregroundColor => inferInstanceAs (BEq Color)
  | strikethrough => inferInstanceAs (BEq StrikeStyle)
  | link => inferInstanceAs (BEq String)
  | paragraphStyle => inferInstanceAs (BEq ParagraphStyle)
  | nestingDepth => inferInstanceAs (BEq Int)

end Key

/-- An attribute that may be left out, or be set to nothing. -/
inductive Slot (α : Type)
  | absent
  | null
  | value (a : α)
deriving BEq

namespace Slot

variable {α : Type}

def value? : Slot α → Option α
  | value a => some a
  | _ => none

def isPresent : Slot α → Bool
  | absent => false
  | _ => true

/-- An attribute laid over another, which shows where the upper one is left out. -/
def covering : Slot α → Slot α → Slot α
  | absent, s => s
  | s, _ => s

/-- The attribute that stands for a value or for nothing. -/
def ofOption : Option α → Slot α
  | some a => value a
  | none => null

end Slot

structure Attributes where
  font : Slot Font := .absent
  foregroundColor : Slot Color := .absent
  strikethrough : Slot StrikeStyle := .absent
  link : Slot String := .absent
  paragraphStyle : Slot ParagraphStyle := .absent
  nestingDepth : Slot Int := .absent
deriving BEq

namespace Attributes

def get (a : Attributes) : (k : Key) → Slot k.Value
  | .font => a.font
  | .foregroundColor => a.foregroundColor
  | .strikethrough => a.strikethrough
  | .link => a.link
  | .paragraphStyle => a.paragraphStyle
  | .nestingDepth => a.nestingDepth

/-- The attributes with one of them replaced. -/
def set (a : Attributes) : (k : Key) → Slot k.Value → Attributes
  | .font, s => { a with font := s }
  | .foregroundColor, s => { a with foregroundColor := s }
  | .strikethrough, s => { a with strikethrough := s }
  | .link, s => { a with link := s }
  | .paragraphStyle, s => { a with paragraphStyle := s }
  | .nestingDepth, s => { a with nestingDepth := s }

/-- Attributes laid over others. -/
def covering (a b : Attributes) : Attributes where
  font := a.font.covering b.font
  foregroundColor := a.foregroundColor.covering b.foregroundColor
  strikethrough := a.strikethrough.covering b.strikethrough
  link := a.link.covering b.link
  paragraphStyle := a.paragraphStyle.covering b.paragraphStyle
  nestingDepth := a.nestingDepth.covering b.nestingDepth

def keys (a : Attributes) : List Key := Key.all.filter fun k => (a.get k).isPresent

@[simp] theorem get_set_self (a : Attributes) (k : Key) (s : Slot k.Value) :
    (a.set k s).get k = s := by
  cases k <;> rfl

theorem get_set_of_ne (a : Attributes) {k k' : Key} (s : Slot k.Value) (h : k' ≠ k) :
    (a.set k s).get k' = a.get k' := by
  cases k <;> cases k' <;> simp_all [get, set]

@[simp] theorem get_covering (a b : Attributes) (k : Key) :
    (a.covering b).get k = (a.get k).covering (b.get k) := by
  cases k <;> rfl

end Attributes

end RichText
