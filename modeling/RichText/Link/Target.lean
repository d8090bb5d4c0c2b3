import RichText.Link.Authority
import RichText.Text.Blank
import RichText.Text.Lowercase

/-!
Which destinations a link may lead to. A destination is taken as it stands or not at all.
-/
namespace RichText.Link

open RichText.Text

/-- Why a destination is no target. -/
inductive TargetFault
  | invalid
  | unparsable (fault : AuthorityFault)
  | dangerous
deriving DecidableEq

/-- Characters that a target holds only in an encoded form. -/
def reserved : List Char := [' ', '<', '>', '"', '\x7b', '\x7d', '|', '\\', '^', '\x60']

def isTargetChar (c : Char) : Bool :=
  !reserved.contains c && !isBlank c && isPrintable c

def dangerousOpenings : List String := [
  "javascript:", "vbscript:", "data:text/html", "data:text/javascript",
  "data:application/javascript", "data:application/x-javascript"]

/-- Whether a target runs code, in whatever case it is written. -/
def isDangerous (target : List Char) : Bool :=
  dangerousOpenings.any fun opening => opening.toList.isPrefixOf (lower target)

/-- The checks that do not depend on options. -/
def checkTarget (destination : List Char) : Except TargetFault Unit :=
  if destination.isEmpty || !destination.all isTargetChar then .error .invalid
  else match authority? destination with
    | none => .ok ()
    | some authority =>
      match checkAuthority authority with
      | .ok () => .ok ()
      | .error fault => .error (.unparsable fault)

/-- The target that a destination gives; one that runs code gives none if `safe` is asked for. -/
def target (safe : Bool) (destination : String) : Except TargetFault String := do
  checkTarget destination.toList
  if safe && isDangerous destination.toList then .error .dangerous
  else .ok destination

end RichText.Link
