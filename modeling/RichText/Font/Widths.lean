/-!
Tables of glyph widths, in thousandths of the point size.
-/
namespace RichText.Font

/-- Blocks of consecutive characters: the first code point and the widths from there on. -/
abbrev Widths := List (Nat × Array Nat)

def Widths.get? (w : Widths) (c : Char) : Option Nat :=
  w.findSome? fun (first, widths) =>
    if first ≤ c.toNat then widths[c.toNat - first]? else none

end RichText.Font
