/-!
Values without a fixed shape, as the attributes of tokens hold them.
-/
namespace RichText

/-- A value of any shape. The fields of a record are in order, and no name comes twice. -/
inductive Value
  | null
  | bool (b : Bool)
  | int (n : Int)
  | float (x : Float)
  | text (s : String)
  | list (items : List Value)
  | record (fields : List (String × Value))

namespace Value

/-- Whether a value counts as yes: nothing, zero and whatever is empty do not. -/
def isTrue : Value → Bool
  | null => false
  | bool b => b
  | int n => n ≠ 0
  | float x => x != 0
  | text s => !s.isEmpty
  | list items => !items.isEmpty
  | record fields => !fields.isEmpty

def text? : Value → Option String
  | text s => some s
  | _ => none

def int? : Value → Option Int
  | int n => some n
  | _ => none

end Value

end RichText
