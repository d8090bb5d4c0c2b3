/-!
Fonts: a family, the face that was found for it, a size in points, and the traits it carries.
-/
namespace RichText

/-- Bold and italic, which add up. -/
structure Traits where
  bold : Bool := false
  italic : Bool := false
deriving DecidableEq

namespace Traits

def plain : Traits := {}

def union (a b : Traits) : Traits := ⟨a.bold || b.bold, a.italic || b.italic⟩

instance : Union Traits := ⟨union⟩

@[simp] theorem union_bold (a b : Traits) : (a ∪ b).bold = (a.bold || b.bold) := rfl

@[simp] theorem union_italic (a b : Traits) : (a ∪ b).italic = (a.italic || b.italic) := rfl

end Traits

inductive Weight
  | regular
  | bold
deriving DecidableEq

/-- A bold font carries the bold trait from the start. -/
def Weight.traits : Weight → Traits
  | .regular => .plain
  | .bold => { bold := true }

/-- A font as a run holds it. The flags say that all glyphs, or all digits, share one width. -/
structure Font where
  family : String
  face : String
  size : Float
  traits : Traits := {}
  monospaced : Bool := false
  monospacedDigits : Bool := false
deriving BEq

end RichText
