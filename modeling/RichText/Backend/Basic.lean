import RichText.Log

/-!
What rendering asks of fonts: to make them, to add traits to them and to measure text in them. None
of it fails; what a backend has to make do with, it reports.
-/
namespace RichText

/-- A provider of fonts. -/
structure Backend where
  systemFont : (size : Float) → Weight → Logged Font
  monospacedFont : (size : Float) → Weight → Logged Font
  /-- The body font with digits of one width. -/
  monospacedDigitFont : (size : Float) → Weight → Logged Font
  /-- The font with traits added to its own and, if one is given, another size. -/
  withTraits : Font → Traits → (size : Option Float) → Logged Font
  /-- The width of a text in points. -/
  measure : (text : String) → Font → Logged Float

/-- Which families a backend uses for body text and for code. -/
structure Families where
  body : String
  code : String

namespace Font

def make (face : String → Traits → Logged String) (family : String) (size : Float)
    (weight : Weight) : Logged Font := do
  let face ← face family weight.traits
  return { family, face, size, traits := weight.traits }

/-- A font with more traits and perhaps another size, its face found anew by `face`. -/
def addTraits (face : String → Traits → Logged String) (font : Font) (traits : Traits)
    (size : Option Float) : Logged Font := do
  let traits := font.traits ∪ traits
  let face ← face font.family traits
  return { font with face, traits, size := size.getD font.size }

end Font

namespace Backend

/-- A backend that finds each face from family and traits alone. -/
def ofFaces (families : Families) (face : String → Traits → Logged String)
    (measure : String → Font → Logged Float) : Backend where
  systemFont size weight := Font.make face families.body size weight
  monospacedFont size weight := do
    return { ← Font.make face families.code size weight with monospaced := true }
  monospacedDigitFont size weight := do
    return { ← Font.make face families.body size weight with monospacedDigits := true }
  withTraits := Font.addTraits face
  measure := measure

end Backend

end RichText
