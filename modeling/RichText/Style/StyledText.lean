import RichText.Style.Attributes

/-!
Styled text: runs of text, each with its attributes, which are never merged.
-/
namespace RichText

/-- A piece of text under one set of attributes. -/
structure Run where
  text : String
  attributes : Attributes := {}
deriving BEq

namespace Run

def length (r : Run) : Nat := r.text.length

def font? (r : Run) : Option Font := r.attributes.font.value?

/-- The run with attributes put over its own. -/
def restyle (r : Run) (upper : Attributes) : Run :=
  { r with attributes := upper.covering r.attributes }

def set (r : Run) (k : Key) (s : Slot k.Value) : Run :=
  { r with attributes := r.attributes.set k s }

/-- An attribute's value, or the default where the attribute is left out. -/
def getD (r : Run) (k : Key) (default : Option k.Value) : Option k.Value :=
  match r.attributes.get k with
  | .absent => default
  | s => s.value?

end Run

/-- Runs in order. Runs without text are kept. -/
structure StyledText where
  runs : List Run := []
deriving BEq

namespace StyledText

def ofText (text : String) (attributes : Attributes := {}) : StyledText := ⟨[⟨text, attributes⟩]⟩

def append (a b : StyledText) : StyledText := ⟨a.runs ++ b.runs⟩

instance : Append StyledText := ⟨append⟩

@[simp] theorem runs_append (a b : StyledText) : (a ++ b).runs = a.runs ++ b.runs := rfl

def text (a : StyledText) : String := String.join (a.runs.map (·.text))

def length (a : StyledText) : Nat := a.text.length

def set (a : StyledText) (k : Key) (s : Slot k.Value) : StyledText := ⟨a.runs.map (·.set k s)⟩

def restyleAt (a : StyledText) (i : Nat) (upper : Attributes) : StyledText :=
  ⟨a.runs.modify i (·.restyle upper)⟩

end StyledText

end RichText
