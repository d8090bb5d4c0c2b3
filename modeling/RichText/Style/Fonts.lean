import RichText.Backend.Basic
import RichText.Style.StyledText

/-!
Changing the fonts of a styled text. A run without a font stays without one.
-/
namespace RichText

/-- Changes the font of every run that has one, from left to right. -/
def Run.mapFonts (change : Font → Logged Font) : List Run → Logged (List Run)
  | [] => pure []
  | run :: runs => do
    let run ← match run.font? with
      | some font => do
        let font ← change font
        pure (run.set .font (.value font))
      | none => pure run
    let runs ← mapFonts change runs
    return run :: runs

namespace StyledText

/-- Changes the font of every run that has one. -/
def mapFonts (change : Font → Logged Font) (a : StyledText) : Logged StyledText :=
  StyledText.mk <$> Run.mapFonts change a.runs

/-- Adds traits to the font of every run that has one, and perhaps gives it another size. -/
def addTraits (backend : Backend) (traits : Traits) (size : Option Float) (a : StyledText) :
    Logged StyledText :=
  a.mapFonts (backend.withTraits · traits size)

end StyledText

end RichText
