import RichText.Backend.Fixed
import RichText.Font.Face

/-!
The backend of the standard faces. A family that has no face for some traits borrows the face of
Helvetica with those traits.
-/
namespace RichText

namespace Font

/-- The faces there are: the standard ones and those registered under a name, which have the widths
of a standard one; what is registered last counts. -/
structure Catalogue where
  registered : List (String × StandardFace) := []

namespace Catalogue

def widths? (c : Catalogue) (face : String) : Option StandardFace :=
  match c.registered.reverse.find? (·.1 == face) with
  | some (_, f) => some f
  | none => StandardFace.ofName? face

def has (c : Catalogue) (face : String) : Bool := (c.widths? face).isSome

end Catalogue

/-- What names of faces add to the names of other families, most likely first. -/
def faceSuffixes : Traits → List String
  | ⟨false, false⟩ => ["", "-Regular", "-Roman"]
  | ⟨true, false⟩ => ["-Bold"]
  | ⟨false, true⟩ => ["-Italic", "-Oblique"]
  | ⟨true, true⟩ => ["-BoldItalic", "-BoldOblique"]

/-- The faces to try for a family, best first. -/
def ownFaces (family : String) (traits : Traits) : List String :=
  match StandardFamily.ofName? family with
  | some f => [(f.face traits).name]
  | none => (faceSuffixes traits).map (family ++ ·)

def fallbackFace (traits : Traits) : String := (StandardFamily.helvetica.face traits).name

/-- The first face of a family that there is, or the fallback. Whatever is not the first choice is
reported. -/
def findFace (c : Catalogue) (family : String) (traits : Traits) : Logged String := do
  let candidates := ownFaces family traits ++ [fallbackFace traits]
  match candidates.find? c.has with
  | some face =>
    if candidates.head? != some face then
      .report (.substituted family traits face)
    return face
  | none =>
    let face := fallbackFace .plain
    .report (.noFace family traits face)
    return face

end Font

namespace Backend

/-- The backend of a catalogue of faces. A text in a face that is not there gets half the size for
each character. -/
def standard [Font.FaceMetrics] (families : Families := ⟨"Helvetica", "Courier"⟩)
    (c : Font.Catalogue := {}) : Backend :=
  ofFaces families (Font.findFace c) fun text font =>
    match c.widths? font.face with
    | some f => pure (Font.FaceMetrics.width f text font.size)
    | none => do
      .report (.unmeasurable text font.face)
      return evenWidth 0.5 text font.size

end Backend

end RichText
