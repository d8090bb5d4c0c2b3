import RichText.Package.Version
import RichText.Text.Lowercase

/-!
Specifiers: which versions of a package will do. A text holds any number of them between commas, and
a version has to satisfy all.
-/
namespace RichText.Package

/-- What is asked of a version. Where it has to begin in a certain way, that is given by the parts of
its text. -/
inductive Specifier
  /-- At least this version, with the same start. -/
  | compatible (v : Version) (start : List (List Char))
  | equal (v : Version)
  | notEqual (v : Version)
  | within (start : List (List Char))
  | notWithin (start : List (List Char))
  | atMost (v : Version)
  | atLeast (v : Version)
  | below (v : Version)
  | above (v : Version)
  /-- The version of exactly this text. -/
  | identical (text : List Char)
deriving DecidableEq

namespace Specifier

/-! ### Parts of a version -/

/-- A part between dots; the mark of a pre-release right behind a number is a part of its own. -/
def splitMark (part : List Char) : List (List Char) :=
  let (number, mark) := part.span Char.isDigit
  let isMark := ["a", "b", "c", "rc"].any fun word =>
    (Text.dropStart? word.toList mark).any fun digits =>
      !digits.isEmpty && digits.all Char.isDigit
  if !number.isEmpty && isMark then [number, mark] else [part]

/-- The parts of the text of a version, the epoch first. -/
def textParts (s : List Char) : List (List Char) :=
  match Text.cut '!' s with
  | (epoch, some rest) => epoch :: (Text.splitAt '.' rest).flatMap splitMark
  | (_, none) => ['0'] :: (Text.splitAt '.' s).flatMap splitMark

/-- The parts of a text in its normal spelling; what is no version is left as it is written. -/
def normalParts (s : List Char) : List (List Char) :=
  textParts ((Version.ofText? s).elim s Version.toText)

/-- Whether a part is no number of a release, by how it begins in normal spelling. -/
def isMark (part : List Char) : Bool :=
  ["dev", "a", "b", "rc", "post"].any fun word => word.toList.isPrefixOf part

/-- How a compatible version begins: like the version written here but for the last part of its
release. Marks in other spellings than the normal ones are taken for such a part. -/
def compatibleStart (s : List Char) : List (List Char) :=
  match ((textParts s).takeWhile (!isMark ·)).dropLast with
  | [] => []
  | epoch :: release => normalParts (epoch ++ '!' :: ['.'].intercalate release)

/-- Whether a version begins with certain parts; numbers that it leaves out are zero. -/
def isWithin (v : Version) (start : List (List Char)) : Bool :=
  let numbers (parts : List (List Char)) := parts.takeWhile (·.all Char.isDigit)
  let parts := textParts v.withoutLocal.toText
  let own := numbers parts
  let zeros := List.replicate ((numbers start).length - own.length) ['0']
  start.isPrefixOf (own ++ zeros ++ parts.drop own.length)

/-! ### Order -/

/-- Whether a version is the one asked for. A local build will do unless one is named. -/
def isEqual (v wanted : Version) : Bool :=
  (if wanted.localParts.isEmpty then v.withoutLocal else v).compare wanted == .eq

/-- Whether a version comes no earlier than another, local builds aside. -/
def isAtLeast (v wanted : Version) : Bool := v.withoutLocal.compare wanted != .lt

/-- Whether a version comes no later than another, local builds aside. -/
def isAtMost (v wanted : Version) : Bool := v.withoutLocal.compare wanted != .gt

/-- Whether a version comes before another. A pre-release of that very version does not, unless the
other one is a pre-release too. -/
def isBelow (v wanted : Version) : Bool :=
  let leadsTo := v.compare { wanted with dev := some 0, localParts := [] } != .lt
  v.compare wanted == .lt && (wanted.isPrerelease || !v.isPrerelease || !leadsTo)

/-- Whether a version comes after another. A post-release of that very version does not, unless the
other one is a post-release too, and a local build of it never does. -/
def isAbove (v wanted : Version) : Bool :=
  let follows := { v.withoutLocal with post := none, dev := none }.compare wanted == .eq
  v.compare wanted == .gt && (wanted.post.isSome || v.post.isNone || !follows) &&
    (v.localParts.isEmpty || v.withoutLocal.compare wanted != .eq)

/-- Whether a version will do. -/
def allows : Specifier → Version → Bool
  | compatible w start, v => isAtLeast v w && isWithin v start
  | equal w, v => isEqual v w
  | notEqual w, v => !isEqual v w
  | within start, v => isWithin v start
  | notWithin start, v => !isWithin v start
  | atMost w, v => isAtMost v w
  | atLeast w, v => isAtLeast v w
  | below w, v => isBelow v w
  | above w, v => isAbove v w
  | identical text, v => v.toText == Text.lower text

/-! ### Text -/

/-- A release without any mark, in front of a star. -/
def wildcard? (s : List Char) : Option Version := do
  let start ← Text.dropStart? ['*', '.'] s.reverse
  match ← Version.takePublic? start.reverse with
  | (v, []) => if v == v.base then some v else none
  | _ => none

/-- A version in which no local build is named. -/
def public? (s : List Char) : Option Version := do
  let v ← Version.ofText? s
  if v.localParts.isEmpty && !s.contains '+' then some v else none

/-- The specifier of a text without white space at its ends. -/
def ofText? (s : List Char) : Option Specifier :=
  match s with
  | '=' :: '=' :: '=' :: rest =>
    let text := Text.strip rest
    if text.any fun c => Text.isBlank c || c = ';' || c = ')' then none
    else some (identical text)
  | '=' :: '=' :: rest => equality within equal rest
  | '!' :: '=' :: rest => equality notWithin notEqual rest
  | '~' :: '=' :: rest => do
    let v ← public? rest
    if v.release.length < 2 then none else some (compatible v (compatibleStart (Text.strip rest)))
  | '<' :: '=' :: rest => (public? rest).map atMost
  | '>' :: '=' :: rest => (public? rest).map atLeast
  | '<' :: rest => (public? rest).map below
  | '>' :: rest => (public? rest).map above
  | _ => none
where
  /-- A version with a star, or a whole one. -/
  equality (starred : List (List Char) → Specifier) (whole : Version → Specifier) (s : List Char) :
      Option Specifier :=
    match wildcard? ((Text.strip s).map Char.toLower) with
    | some v => some (starred (textParts v.toText))
    | none => (Version.ofText? s).map whole

/-- The specifiers of a text; what is empty between commas counts for nothing. -/
def ofTexts (text : String) : Except Unreadable (List Specifier) :=
  let parts := (Text.splitAt ',' text.toList).map Text.strip
  (parts.filter (!·.isEmpty)).mapM fun part =>
    match ofText? part with
    | some s => .ok s
    | none => .error (.specifier (String.ofList part))

end Specifier

end RichText.Package
