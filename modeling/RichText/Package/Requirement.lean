import RichText.Package.Specifier

/-!
Whether the packages that a component needs are there, and in versions that will do. How versions
and specifiers are read, and which go together, is up to a scheme of versions.
-/
namespace RichText.Package

/-- A scheme of versions. -/
class Versioning where
  Version : Type
  Specifiers : Type
  readVersion : String → Except Unreadable Version
  readSpecifiers : String → Except Unreadable Specifiers
  /-- Whether a version satisfies specifiers. -/
  allows : Specifiers → Version → Bool

/-- The scheme in which any number of specifiers have to be satisfied, for where no other one is at
hand. -/
instance Specifier.versioning : Versioning where
  Version := Version
  Specifiers := List Specifier
  readVersion := Version.ofText
  readSpecifiers := Specifier.ofTexts
  allows specifiers v := specifiers.all (·.allows v)

variable [Versioning]

/-- A package by its name and the text of its specifiers. -/
structure Requirement where
  package : String
  specifiers : String
deriving DecidableEq

/-- A requirement that is not met by what is installed. -/
structure Mismatch extends Requirement where
  installed : String
deriving DecidableEq

/-- What a component lacks. `command` is the advice to give, if there is some; `cause` is the first
module that could not be imported. -/
structure Shortfall where
  component : String
  missing : List Requirement := []
  mismatched : List Mismatch := []
  command : String := ""
  cause : Option String := none
deriving DecidableEq

namespace Shortfall

/-- All requirements that are not met, missing packages first. -/
def unmet (s : Shortfall) : List Requirement :=
  s.missing ++ s.mismatched.map (·.toRequirement)

/-- The lines that say what is lacking. -/
def complaints (s : Shortfall) : List String :=
  let missing := s.missing.map fun r => "'" ++ r.package ++ r.specifiers ++ "'"
  let mismatched := s.mismatched.map fun m =>
    "'" ++ m.package ++ "' (requires " ++ m.specifiers ++ ", but " ++ m.installed ++
      " is installed)"
  (if missing.isEmpty then []
    else [s.component ++ " requires the following packages: " ++ ", ".intercalate missing]) ++
  (if mismatched.isEmpty then []
    else [s.component ++ " has version mismatches: " ++ ", ".intercalate mismatched])

/-- How a requirement stands in a command: between quotes if it has specifiers. -/
def argument (r : Requirement) : String :=
  if r.specifiers.isEmpty then r.package else "\"" ++ r.package ++ r.specifiers ++ "\""

/-- The advice on how to mend it. -/
def advice (s : Shortfall) : String :=
  if !s.command.isEmpty then "\nInstall with: " ++ s.command
  else if s.unmet.isEmpty then ""
  else "\nInstall with: pip install --upgrade " ++ " ".intercalate (s.unmet.map argument)

def message (s : Shortfall) : String := "\n".intercalate s.complaints ++ s.advice

end Shortfall

structure Dependency extends Requirement where
  module : String
deriving DecidableEq

/-- What there is: the modules that can be imported, and the versions of the packages installed. -/
structure Environment where
  importable : List String
  installed : List (String × String)

/-- The reason why a module cannot be imported. -/
def noModule (module : String) : String := "No module named " ++ Text.quoted module

/-- Whether a version satisfies specifiers. The specifiers are read first. -/
def satisfies (installed specifiers : String) : Except Unreadable Bool := do
  let specifiers ← Versioning.readSpecifiers specifiers
  let v ← Versioning.readVersion installed
  return Versioning.allows specifiers v

/-- Whether a package will do, and its version. One that is not installed will not do, and its
specifiers are not looked at; an empty version counts as none. -/
def meets (installed : Option String) (specifiers : String) :
    Except Unreadable (Bool × Option String) :=
  match installed with
  | none | some "" => .ok (false, none)
  | some v => do return (← satisfies v specifiers, some v)

inductive DependencyFault
  | unreadable (fault : Unreadable)
  | shortfall (s : Shortfall)

/-- Looks at one dependency after another and notes what is lacking. -/
def lacking (env : Environment) (s : Shortfall) : List Dependency → Except Unreadable Shortfall
  | [] => .ok s
  | d :: ds =>
    if !env.importable.contains d.module then
      let cause := s.cause.getD (noModule d.module)
      lacking env { s with missing := s.missing ++ [d.toRequirement], cause := some cause } ds
    else if d.specifiers.isEmpty then lacking env s ds
    else do
      let (ok, installed) ← meets (env.installed.lookup d.package) d.specifiers
      if ok then lacking env s ds
      else
        let m : Mismatch := { d.toRequirement with installed := installed.getD "unknown" }
        lacking env { s with mismatched := s.mismatched ++ [m] } ds

/-- Whether a component can be used. -/
def require (env : Environment) (component : String) (ds : List Dependency) :
    Except DependencyFault Unit :=
  match lacking env { component } ds with
  | .error fault => .error (.unreadable fault)
  | .ok s => if s.unmet.isEmpty then .ok () else .error (.shortfall s)

end RichText.Package
