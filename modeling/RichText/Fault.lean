import RichText.Options.Mismatch
import RichText.Package.Requirement
import RichText.Value

/-!
Faults as they are handed to callers: a wording, what caused them, and the details of their sort.
-/
namespace RichText

inductive FaultSort
  | general
  | validation
  | wrongOptions
  | reading
  | rendering
  | dependency
deriving DecidableEq

namespace FaultSort

/-- A sort and all that are broader, the broadest last. -/
def lineage : FaultSort → List FaultSort
  | general => [general]
  | wrongOptions => [wrongOptions, validation, general]
  | s => [s, general]

end FaultSort

inductive FaultDetail
  | general
  | parameter (name : Option String) (value : Value)
  | options (m : OptionsMismatch)
  | reading (stage : Option String)
  | rendering (stage : Option String)
  | packages (s : Package.Shortfall)

def FaultDetail.sort : FaultDetail → FaultSort
  | general => .general
  | parameter _ _ => .validation
  | options _ => .wrongOptions
  | reading _ => .reading
  | rendering _ => .rendering
  | packages _ => .dependency

/-- The wording that a fault has if none is given. -/
def FaultDetail.message : FaultDetail → String
  | options m => m.message
  | packages s => s.message
  | _ => ""

structure Fault where
  detail : FaultDetail
  message : String
  cause : Option String := none

/-- A fault with a wording of its own, or else with the usual one. -/
def Fault.make (detail : FaultDetail) (message cause : Option String) : Fault :=
  { detail, message := message.getD detail.message, cause }

end RichText
