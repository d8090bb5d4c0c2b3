/-!
Components take options of one sort each.
-/
namespace RichText

inductive OptionsSort
  | traversal
  | rendering
  | decoding
  | reading
deriving DecidableEq

def OptionsSort.name : OptionsSort → String
  | traversal => "BaseRendererOptions"
  | rendering => "AttributedRendererOptions"
  | decoding => "BaseParserOptions"
  | reading => "MarkdownParserOptions"

/-- Options of a sort that a component does not take. -/
structure OptionsMismatch where
  component : String
  expected : OptionsSort
  received : OptionsSort
deriving DecidableEq

def OptionsMismatch.message (m : OptionsMismatch) : String :=
  m.component ++ " expected options of type '" ++ m.expected.name ++ "' but received '" ++
    m.received.name ++ "'. Please provide the correct options type."

inductive Component
  | reader
  | renderer
deriving DecidableEq

namespace Component

def name : Component → String
  | reader => "markdown"
  | renderer => "attributed"

/-- The sort that a component takes. -/
def expects : Component → OptionsSort
  | reader => .reading
  | renderer => .rendering

/-- The sort of options that a component works with when it is given some, or none. -/
def take (c : Component) : Option OptionsSort → Except OptionsMismatch OptionsSort
  | none => .ok c.expects
  | some received =>
    if received = c.expects then .ok received
    else .error ⟨c.name, c.expects, received⟩

end Component

end RichText
