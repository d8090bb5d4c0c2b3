import RichText.Options.Fault

/-!
Records of settings: each setting has a name, and a record is checked whenever it is made or
changed.
-/
namespace RichText

/-- A record of settings with what each holds and the checks on all of them together. -/
class Settings (O : Type) where
  Field : Type
  Value : Field → Type
  fields : List Field
  name : Field → String
  defaults : O
  get : O → (f : Field) → Value f
  set : O → (f : Field) → Value f → O
  validate : O → Except OptionsFault O

namespace Settings

variable {O : Type} [Settings O]

/-- A setting and what it is to hold. -/
abbrev Change (O : Type) [Settings O] := (f : Field O) × Value f

def named (O : Type) [Settings O] (wanted : String) : Except OptionsFault (Field O) :=
  match (fields : List (Field O)).find? (name · == wanted) with
  | some f => .ok f
  | none => .error (.unknownField wanted)

/-- A record after some changes, once it is found usable. -/
def update (o : O) (changes : List (Change O)) : Except OptionsFault O :=
  validate (changes.foldl (fun o c => set o c.1 c.2) o)

/-- The record that differs from the defaults in some settings, once it is found usable. -/
def make (changes : List (Change O)) : Except OptionsFault O :=
  update defaults changes

end Settings

end RichText
