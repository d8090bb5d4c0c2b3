import RichText.Font.Basic
import RichText.Link.Target
import RichText.Node.Kind

/-!
What reading and rendering report on the side, and computations that report.
-/
namespace RichText

/-- The part of the library that reports. -/
inductive Channel
  | rendering
  | fonts
  | reading
  | documents
deriving DecidableEq

/-- Something worth a note. -/
inductive Event
  /-- A node whose kind has no rendering of its own. -/
  | undedicated (kind : Kind)
  | linkDropped (destination : String) (fault : Link.TargetFault)
  | rendered
  /-- A face that stands in for the one asked for. -/
  | substituted (family : String) (traits : Traits) (face : String)
  | noFace (family : String) (traits : Traits) (face : String)
  | unmeasurable (text face : String)
  | skippedBlock (type : String)
  | skippedInline (type : String)
  | parsed
  | topLevelBlocks (count : Nat)
deriving DecidableEq

namespace Event

def channel : Event → Channel
  | undedicated _ | linkDropped _ _ | rendered => .rendering
  | substituted _ _ _ | noFace _ _ _ | unmeasurable _ _ => .fonts
  | skippedBlock _ | skippedInline _ | parsed => .reading
  | topLevelBlocks _ => .documents

/-- The wording of a set of traits. -/
def describe : Traits → String
  | ⟨false, false⟩ => "FontTrait.NONE"
  | ⟨true, false⟩ => "FontTrait.BOLD"
  | ⟨false, true⟩ => "FontTrait.ITALIC"
  | ⟨true, true⟩ => "FontTrait.ITALIC|BOLD"

def message : Event → String
  | undedicated kind =>
    "No dedicated rendering for " ++ kind.name ++ "; rendering its children"
  | linkDropped destination .invalid =>
    "Link destination " ++ Text.quoted destination ++
      " is not a valid URL; rendering without a link"
  | linkDropped destination (.unparsable fault) =>
    "Link destination " ++ Text.quoted destination ++ " could not be parsed (" ++ fault.message ++
      "); rendering without a link"
  | linkDropped destination .dangerous =>
    "Link destination " ++ Text.quoted destination ++
      " uses a dangerous scheme; rendering without a link"
  | rendered => "Rendering (attributed) completed in <t>s"
  | substituted family traits face =>
    "No " ++ describe traits ++ " face for " ++ family ++ "; substituting " ++ face
  | noFace family traits face =>
    "No face for " ++ family ++ " with " ++ describe traits ++ "; using " ++ face
  | unmeasurable text face =>
    "Could not measure " ++ Text.quoted text ++ " in " ++ face ++ " (" ++ Text.quoted face ++
      "); using average advance"
  | skippedBlock type => "Skipping unsupported markdown block token: " ++ type
  | skippedInline type => "Skipping unsupported markdown inline token: " ++ type
  | parsed => "Parsing (markdown) completed in <t>s"
  | topLevelBlocks count => "Parsed markdown into " ++ toString count ++ " top-level blocks"

end Event

/-- A value and what was reported on the way to it. -/
structure Logged (α : Type) where
  log : List Event
  value : α

namespace Logged

variable {α β : Type}

def report (e : Event) : Logged Unit := ⟨[e], ()⟩

instance : Monad Logged where
  pure a := ⟨[], a⟩
  bind x f := ⟨x.log ++ (f x.value).log, (f x.value).value⟩

@[simp] theorem log_pure (a : α) : (pure a : Logged α).log = [] := rfl

@[simp] theorem value_pure (a : α) : (pure a : Logged α).value = a := rfl

@[simp] theorem log_bind (x : Logged α) (f : α → Logged β) :
    (x >>= f).log = x.log ++ (f x.value).log := rfl

@[simp] theorem value_bind (x : Logged α) (f : α → Logged β) :
    (x >>= f).value = (f x.value).value := rfl

instance : LawfulMonad Logged :=
  .mk' _ (fun x => by simp [Functor.map]) (fun a f => by simp [bind]) (fun x f g => by simp [bind])

end Logged

/-- A computation that may fail, and what was reported before it ended either way. -/
structure Traced (ε α : Type) where
  log : List Event
  result : Except ε α

namespace Traced

variable {ε α β : Type}

/-- Runs the second computation on what the first one gives. -/
def andThen (x : Traced ε α) (f : α → Traced ε β) : Traced ε β :=
  match x.result with
  | .error e => ⟨x.log, .error e⟩
  | .ok a => ⟨x.log ++ (f a).log, (f a).result⟩

instance : Monad (Traced ε) where
  pure a := ⟨[], .ok a⟩
  bind := andThen

instance : MonadExcept ε (Traced ε) where
  throw e := ⟨[], .error e⟩
  tryCatch x handle := match x.result with
    | .error e => ⟨x.log ++ (handle e).log, (handle e).result⟩
    | .ok _ => x

instance : MonadLift Logged (Traced ε) where
  monadLift x := ⟨x.log, .ok x.value⟩

instance : MonadLift (Except ε) (Traced ε) where
  monadLift x := ⟨[], x⟩

def report (e : Event) : Traced ε Unit := ⟨[e], .ok ()⟩

/-- Turns the fault into another, if there is one. -/
def mapFault {ζ : Type} (f : ε → ζ) (x : Traced ε α) : Traced ζ α := ⟨x.log, x.result.mapError f⟩

end Traced

end RichText
