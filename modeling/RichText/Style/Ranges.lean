import RichText.Style.StyledText

/-!
Where the attributes of a styled text begin and end, in characters from the start.
-/
namespace RichText

/-- A stretch of characters and what holds on it; `stop` is the first character behind it. -/
structure Span (α : Type) where
  start : Nat
  stop : Nat
  value : α
deriving BEq

namespace StyledText

/-- One span for each run, the first from `start` on. -/
def rangesFrom (start : Nat) : List Run → List (Span Attributes)
  | [] => []
  | r :: rest => ⟨start, start + r.length, r.attributes⟩ :: rangesFrom (start + r.length) rest

def ranges (a : StyledText) : List (Span Attributes) := rangesFrom 0 a.runs

/-- Joins neighbouring spans of equal value; the joined span has the value of the first. -/
def joinEqual {α : Type} [BEq α] (s : Span α) : List (Span α) → List (Span α)
  | [] => [s]
  | t :: rest =>
    if t.value == s.value then joinEqual { s with stop := t.stop } rest
    else s :: joinEqual t rest

/-- The longest spans on which an attribute keeps its value; nothing is the value where the
attribute is left out. -/
def spans (a : StyledText) (k : Key) : List (Span (Option k.Value)) :=
  match a.ranges.map fun s => { s with value := (s.value.get k).value? } with
  | [] => []
  | s :: rest => joinEqual s rest

end StyledText

end RichText
