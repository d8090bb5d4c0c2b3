import RichText.Style.StyledText
import RichText.Value

/-!
A description of styled text in values without a fixed shape, for looking at. It leaves out the
family and the flags of fonts, and gives colours by their parts.
-/
namespace RichText

def Alignment.name : Alignment → String
  | left => "left"
  | right => "right"

def StrikeStyle.name : StrikeStyle → String
  | single => "single"

def Font.describe (f : Font) : Value :=
  .record [("face", .text f.face), ("size", .float f.size)]

/-- A tab stop as a pair. -/
def TabStop.describe (t : TabStop) : Value :=
  .list [.text t.alignment.name, .float t.location]

def ParagraphStyle.describe (p : ParagraphStyle) : Value :=
  .record [("tab_stops", .list (p.tabStops.map (·.describe))), ("head_indent", .float p.headIndent)]

def Key.describe : (k : Key) → k.Value → RichText.Value
  | .font, f => f.describe
  | .foregroundColor, c => .text c.hex
  | .strikethrough, s => .text s.name
  | .link, target => .text target
  | .paragraphStyle, p => p.describe
  | .nestingDepth, n => .int n

def Attributes.describe (a : Attributes) : List (String × Value) :=
  a.keys.map fun k =>
    (k.name, match (a.get k).value? with
      | some v => k.describe v
      | none => .null)

def Run.describe (r : Run) : Value :=
  .record (("text", .text r.text) :: r.attributes.describe)

def StyledText.describe (a : StyledText) : Value :=
  .list (a.runs.map (·.describe))

end RichText
