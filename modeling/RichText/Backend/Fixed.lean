import RichText.Backend.Basic

/-!
A backend without font files: faces are named after family and traits, and every character has one
width.
-/
namespace RichText.Backend

/-- What the name of a face adds to the name of its family. -/
def faceSuffix : Traits → String
  | ⟨false, false⟩ => ""
  | ⟨true, false⟩ => "-Bold"
  | ⟨false, true⟩ => "-Italic"
  | ⟨true, true⟩ => "-BoldItalic"

/-- The width of a text whose characters each have the width `advance`, in parts of the size. -/
def evenWidth (advance : Float) (text : String) (size : Float) : Float :=
  Float.ofNat text.length * size * advance

def fixed (families : Families := ⟨"Body", "Mono"⟩) (advance : Float := 0.5) : Backend :=
  ofFaces families (fun family traits => pure (family ++ faceSuffix traits))
    (fun text font => pure (evenWidth advance text font.size))

end RichText.Backend
