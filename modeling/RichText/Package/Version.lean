import RichText.Text.Blank
import RichText.Text.Cut
import RichText.Text.Quoted

/-!
Versions of packages: an epoch, a release of numbers, and marks for pre-releases, post-releases,
developmental releases and local builds. They are read in every spelling and have one order.
-/
namespace RichText.Package

/-- What cannot be read as a version, or as a specifier of versions. -/
inductive Unreadable
  | version (text : String)
  | specifier (text : String)
deriving DecidableEq

def Unreadable.message : Unreadable → String
  | version text => "Invalid version: " ++ Text.quoted text
  | specifier text => "Invalid specifier: " ++ Text.quoted text

inductive PreStage
  | alpha
  | beta
  | candidate
deriving DecidableEq

inductive LocalPart
  | number (n : Nat)
  | word (s : List Char)
deriving DecidableEq

structure Version where
  epoch : Nat := 0
  release : List Nat
  pre : Option (PreStage × Nat) := none
  post : Option Nat := none
  dev : Option Nat := none
  localParts : List LocalPart := []
deriving DecidableEq

/-! ### Order -/

/-- The order of releases; numbers left out at the end count as zero. -/
def compareRelease : List Nat → List Nat → Ordering
  | [], [] => .eq
  | [], b :: bs => if b = 0 then compareRelease [] bs else .lt
  | a :: as, [] => if a = 0 then compareRelease as [] else .gt
  | a :: as, b :: bs => (compare a b).then (compareRelease as bs)

def PreStage.rank : PreStage → Nat
  | alpha => 1
  | beta => 2
  | candidate => 3

/-- The order of words, character by character. -/
def compareWord : List Char → List Char → Ordering
  | [], [] => .eq
  | [], _ :: _ => .lt
  | _ :: _, [] => .gt
  | a :: as, b :: bs => (compare a.toNat b.toNat).then (compareWord as bs)

/-- Numbers come after words. -/
def LocalPart.compare : LocalPart → LocalPart → Ordering
  | number a, number b => Ord.compare a b
  | number _, word _ => .gt
  | word _, number _ => .lt
  | word a, word b => compareWord a b

/-- The order of local builds; no local build comes first. -/
def compareLocal : List LocalPart → List LocalPart → Ordering
  | [], [] => .eq
  | [], _ :: _ => .lt
  | _ :: _, [] => .gt
  | a :: as, b :: bs => (a.compare b).then (compareLocal as bs)

namespace Version

/-- Where a version stands among the pre-releases of its release: a mere developmental release comes
before them, a version without a mark after them. -/
def preRank (v : Version) : Nat × Nat :=
  match v.pre with
  | some (stage, n) => (stage.rank, n)
  | none => if v.post.isNone && v.dev.isSome then (0, 0) else (4, 0)

/-- Post-releases come after the version they follow. -/
def postRank (v : Version) : Nat := v.post.elim 0 (· + 1)

/-- Developmental releases come before the version they lead to. -/
def devRank (v : Version) : Nat × Nat := v.dev.elim (1, 0) (0, ·)

/-- The order of pairs by their first parts, then by their second. -/
def comparePair (a b : Nat × Nat) : Ordering := (compare a.1 b.1).then (compare a.2 b.2)

def compare (a b : Version) : Ordering :=
  (Ord.compare a.epoch b.epoch)
    |>.then (compareRelease a.release b.release)
    |>.then (comparePair a.preRank b.preRank)
    |>.then (Ord.compare a.postRank b.postRank)
    |>.then (comparePair a.devRank b.devRank)
    |>.then (compareLocal a.localParts b.localParts)

def isPrerelease (v : Version) : Bool := v.pre.isSome || v.dev.isSome

def withoutLocal (v : Version) : Version := { v with localParts := [] }

def base (v : Version) : Version := { epoch := v.epoch, release := v.release }

/-! ### Text -/

/-- The text of a version, in its one normal spelling. -/
def toText (v : Version) : List Char :=
  let number (n : Nat) := Nat.toDigits 10 n
  let epoch := if v.epoch = 0 then [] else number v.epoch ++ ['!']
  let release := ['.'].intercalate (v.release.map number)
  let pre := match v.pre with
    | some (.alpha, n) => 'a' :: number n
    | some (.beta, n) => 'b' :: number n
    | some (.candidate, n) => 'r' :: 'c' :: number n
    | none => []
  let post := v.post.elim [] (".post".toList ++ number ·)
  let dev := v.dev.elim [] (".dev".toList ++ number ·)
  let localText := match v.localParts with
    | [] => []
    | parts => '+' :: ['.'].intercalate (parts.map fun
      | .number n => number n
      | .word s => s)
  epoch ++ release ++ pre ++ post ++ dev ++ localText

/-- The digits that a text begins with, as a number, and the rest. -/
def takeNat? (s : List Char) : Option (Nat × List Char) :=
  match s.span Char.isDigit with
  | ([], _) => none
  | (digits, rest) => some (Text.natOfDigits digits, rest)

def isSeparator (c : Char) : Bool := c = '.' || c = '-' || c = '_'

/-- The text behind a separator, if it begins with one. -/
def dropSeparator : List Char → List Char
  | c :: rest => if isSeparator c then rest else c :: rest
  | [] => []

/-- A mark: a word of some choice, perhaps between separators, and a number, which is zero if it is
left out. -/
def takeMark? {α : Type} (words : List (String × α)) (s : List Char) :
    Option ((α × Nat) × List Char) :=
  words.findSome? fun (word, a) =>
    (Text.dropStart? word.toList (dropSeparator s)).map fun rest =>
      match takeNat? (dropSeparator rest) with
      | some (n, rest) => ((a, n), rest)
      | none => ((a, 0), dropSeparator rest)

/-- The words for pre-releases. Of two that begin alike the longer one comes first. -/
def preWords : List (String × PreStage) := [
  ("alpha", .alpha), ("a", .alpha), ("beta", .beta), ("b", .beta), ("preview", .candidate),
  ("pre", .candidate), ("c", .candidate), ("rc", .candidate)]

def postWords : List (String × Unit) := [("post", ()), ("rev", ()), ("r", ())]

/-- The mark of a post-release: a word and a number, or a number behind a hyphen. -/
def takePost? (s : List Char) : Option (Nat × List Char) :=
  let plain := match s with
    | '-' :: rest => takeNat? rest
    | _ => none
  match plain with
  | some found => some found
  | none => (takeMark? postWords s).map fun ((_, n), rest) => (n, rest)

def takeRelease (fuel : Nat) (s : List Char) : List Nat × List Char :=
  match fuel, s with
  | fuel + 1, '.' :: rest =>
    match takeNat? rest with
    | some (n, rest) =>
      let (ns, rest) := takeRelease fuel rest
      (n :: ns, rest)
    | none => ([], s)
  | _, _ => ([], s)

/-- The epoch, if the text begins with one. -/
def takeEpoch (s : List Char) : Nat × List Char :=
  match takeNat? s with
  | some (n, '!' :: rest) => (n, rest)
  | _ => (0, s)

/-- The parts of the name of a local build, if all are words or numbers. -/
def localParts? (s : List Char) : Option (List LocalPart) :=
  (Text.splitWhere isSeparator s).mapM fun part =>
    if part.isEmpty || !part.all fun c => c.isDigit || ('a' ≤ c && c ≤ 'z') then none
    else if part.all Char.isDigit then some (.number (Text.natOfDigits part))
    else some (.word part)

/-- What a text in lower case begins with that is a version without a local build, and the rest. -/
def takePublic? (s : List Char) : Option (Version × List Char) := do
  let s := match s with
    | 'v' :: rest => rest
    | s => s
  let (epoch, s) := takeEpoch s
  let (first, s) ← takeNat? s
  let (more, s) := takeRelease s.length s
  let (pre, s) := match takeMark? preWords s with
    | some (mark, s) => (some mark, s)
    | none => (none, s)
  let (post, s) := match takePost? s with
    | some (n, s) => (some n, s)
    | none => (none, s)
  let (dev, s) := match takeMark? [("dev", ())] s with
    | some ((_, n), s) => (some n, s)
    | none => (none, s)
  return ({ epoch, release := first :: more, pre, post, dev }, s)

/-- The version of a text that is nothing else, white space around it apart. -/
def ofText? (text : List Char) : Option Version := do
  let (v, rest) ← takePublic? ((Text.strip text).map Char.toLower)
  match rest with
  | [] => some v
  | '+' :: rest => do
    let localParts ← localParts? rest
    return { v with localParts }
  | _ => none

/-- The version of a text, which must be one. -/
def ofText (text : String) : Except Unreadable Version :=
  match ofText? text.toList with
  | some v => .ok v
  | none => .error (.version text)

end Version

end RichText.Package
