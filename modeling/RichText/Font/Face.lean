import RichText.Font.Basic
import RichText.Font.Metrics.Courier
import RichText.Font.Metrics.Helvetica
import RichText.Font.Metrics.Times
import RichText.Font.Metrics.Symbol

/-!
The fourteen standard faces, the families they form, and the widths of their glyphs.
-/
namespace RichText.Font

inductive StandardFace
  | courier | courierBold | courierOblique | courierBoldOblique
  | helvetica | helveticaBold | helveticaOblique | helveticaBoldOblique
  | timesRoman | timesBold | timesItalic | timesBoldItalic
  | symbol | zapfDingbats
deriving DecidableEq

namespace StandardFace

def all : List StandardFace := [
  courier, courierBold, courierOblique, courierBoldOblique,
  helvetica, helveticaBold, helveticaOblique, helveticaBoldOblique,
  timesRoman, timesBold, timesItalic, timesBoldItalic, symbol, zapfDingbats]

def name : StandardFace → String
  | courier => "Courier"
  | courierBold => "Courier-Bold"
  | courierOblique => "Courier-Oblique"
  | courierBoldOblique => "Courier-BoldOblique"
  | helvetica => "Helvetica"
  | helveticaBold => "Helvetica-Bold"
  | helveticaOblique => "Helvetica-Oblique"
  | helveticaBoldOblique => "Helvetica-BoldOblique"
  | timesRoman => "Times-Roman"
  | timesBold => "Times-Bold"
  | timesItalic => "Times-Italic"
  | timesBoldItalic => "Times-BoldItalic"
  | symbol => "Symbol"
  | zapfDingbats => "ZapfDingbats"

/-- The face of a name. Case matters. -/
def ofName? (name : String) : Option StandardFace :=
  all.find? (·.name == name)

def widths : StandardFace → Widths
  | courier | courierBold | courierOblique | courierBoldOblique => Metrics.courier
  | helvetica | helveticaOblique => Metrics.helvetica
  | helveticaBold | helveticaBoldOblique => Metrics.helveticaBold
  | timesRoman => Metrics.timesRoman
  | timesBold => Metrics.timesBold
  | timesItalic => Metrics.timesItalic
  | timesBoldItalic => Metrics.timesBoldItalic
  | symbol => Metrics.symbol
  | zapfDingbats => Metrics.zapfDingbats

/-- The faces that lend a glyph which the face itself lacks. -/
def substitutes : StandardFace → List Widths
  | symbol | zapfDingbats => []
  | _ => [Metrics.symbol, Metrics.zapfDingbats]

/-- The width of the box that stands for a glyph no face has. -/
def missingGlyph : Nat := 761

/-- The width of one character, in thousandths of the point size. -/
def advance (f : StandardFace) (c : Char) : Nat :=
  ((f.widths :: f.substitutes).findSome? (·.get? c)).getD missingGlyph

/-- The width of a text in points. -/
def measure (f : StandardFace) (text : String) (size : Float) : Float :=
  Float.ofNat (text.toList.foldr (f.advance · + ·) 0) * 0.001 * size

end StandardFace

/-- How wide texts are in the standard faces, at any size. -/
class FaceMetrics where
  width : StandardFace → (text : String) → (size : Float) → Float

/-- The widths of the tables, for where no others are at hand. -/
instance StandardFace.metrics : FaceMetrics := ⟨StandardFace.measure⟩

/-- A family of standard faces, one for each combination of traits. -/
inductive StandardFamily
  | helvetica | times | courier
deriving DecidableEq

namespace StandardFamily

def all : List StandardFamily := [helvetica, times, courier]

def name : StandardFamily → String
  | helvetica => "Helvetica"
  | times => "Times"
  | courier => "Courier"

/-- The family of a name. Case matters. -/
def ofName? (name : String) : Option StandardFamily :=
  all.find? (·.name == name)

def face : StandardFamily → Traits → StandardFace
  | helvetica, ⟨false, false⟩ => .helvetica
  | helvetica, ⟨true, false⟩ => .helveticaBold
  | helvetica, ⟨false, true⟩ => .helveticaOblique
  | helvetica, ⟨true, true⟩ => .helveticaBoldOblique
  | times, ⟨false, false⟩ => .timesRoman
  | times, ⟨true, false⟩ => .timesBold
  | times, ⟨false, true⟩ => .timesItalic
  | times, ⟨true, true⟩ => .timesBoldItalic
  | courier, ⟨false, false⟩ => .courier
  | courier, ⟨true, false⟩ => .courierBold
  | courier, ⟨false, true⟩ => .courierOblique
  | courier, ⟨true, true⟩ => .courierBoldOblique

end StandardFamily

end RichText.Font
