import RichText.Markdown.Destination
import RichText.Text.Blank
import RichText.Text.Punctuation
import RichText.Token.Basic

/-!
Emphasis. Runs of asterisks or underscores open and close it, and each run that closes looks back
for the nearest one that it can close. Marks that find no partner are text.
-/
namespace RichText.Markdown

/-- A run of equal marks, and whether it may open or close emphasis. -/
structure Run where
  mark : Char
  length : Nat
  opens : Bool
  closes : Bool

/-- A part of running text whose emphasis is not resolved yet. -/
inductive Atom
  | char (c : Char) (isEscaped : Bool)
  | run (r : Run)
  | token (t : Token)

/-- The run of a mark between two characters. It may open where it leans to what follows it, and
close where it leans to what is before it; an underscore within a word does neither. -/
def Run.between (mark : Char) (length : Nat) (before after : Char) : Run :=
  let leans (a b : Char) : Bool :=
    !Text.isBlank a && (!Text.isPunctuation a || Text.isBlank b || Text.isPunctuation b)
  let right := leans after before
  let left := leans before after
  if mark = '_' then
    { mark, length
      opens := right && (!left || Text.isPunctuation before)
      closes := left && (!right || Text.isPunctuation after) }
  else { mark, length, opens := right, closes := left }

/-- Whether a run may close another. Where one of them may do both, their lengths may not add up to
a multiple of three, unless both are one. -/
def Run.mayClose (closing opening : Run) : Bool :=
  opening.mark = closing.mark &&
    (!(opening.closes || closing.opens) || (opening.length + closing.length) % 3 != 0 ||
      (opening.length % 3 = 0 && closing.length % 3 = 0))

/-! ### Pieces -/

/-- A part of running text between two runs, or a run. -/
inductive Piece
  | text (s : List Char) (isEscaped : Bool)
  | run (r : Run)
  | token (t : Token)

/-- Pieces with another part in front. A character joins the piece behind it if both or neither of
them are escaped. -/
def Piece.cons : Atom → List Piece → List Piece
  | .char c isEscaped, text s wasEscaped :: rest =>
    if isEscaped = wasEscaped then text (c :: s) isEscaped :: rest
    else text [c] isEscaped :: text s wasEscaped :: rest
  | .char c isEscaped, rest => text [c] isEscaped :: rest
  | .run r, rest => run r :: rest
  | .token t, rest => token t :: rest

def Piece.ofAtoms (atoms : List Atom) : List Piece := atoms.foldr cons []

/-- A piece by itself. -/
def Piece.literal : Piece → Token
  | text s _ => .ofText s
  | run r => .ofText (List.replicate r.length r.mark)
  | token t => t

def Piece.isRun : Piece → Bool
  | run _ => true
  | _ => false

/-! ### Pairs of runs -/

/-- A run that may still be closed, the marks of it that are left, and what follows it, the newest
first, with the levels of emphasis in there. -/
structure OpenRun where
  run : Run
  left : Nat
  content : List Token := []
  depth : Nat := 0

/-- The levels of emphasis that there may be in a sequence. Marks for more are text. -/
def maxEmphasis : Nat := 20

/-- The marks that are left of a run. -/
def Run.rest (r : Run) (left : Nat) : Token := .ofText (List.replicate left r.mark)

/-- An open run as text, with what follows it, the newest first. -/
def OpenRun.written (o : OpenRun) : List Token := o.content ++ [o.run.rest o.left]

/-- Text whose emphasis is being resolved: the runs that are open, the innermost first, and what is
before them, the newest first. -/
structure Nesting where
  outer : List Token := []
  runs : List OpenRun := []

namespace Nesting

/-- Adds a token with so many levels of emphasis. -/
def add (n : Nesting) (t : Token) (depth : Nat := 0) : Nesting :=
  match n.runs with
  | [] => { n with outer := t :: n.outer }
  | o :: runs =>
    { n with runs := { o with content := t :: o.content, depth := max depth o.depth } :: runs }

/-- The nearest run that another may close, with all that follows it, and the runs around it. None
may be closed around as many levels as there may be. -/
def partner? (r : Run) (runs : List OpenRun) : Option (OpenRun × List OpenRun) :=
  let fits (o : OpenRun) : Bool := r.mayClose o.run
  match runs.dropWhile (!fits ·) with
  | [] => none
  | o :: outer =>
    let inner := runs.takeWhile (!fits ·)
    let depth := inner.foldr (max ·.depth ·) o.depth
    if depth < maxEmphasis then
      some ({ o with content := inner.flatMap OpenRun.written ++ o.content, depth }, outer)
    else none

/-- Emphasis around what follows the run `o`, which loses as many marks. -/
def wrap (n : Nesting) (o : OpenRun) (runs : List OpenRun) (marks : Nat) : Nesting :=
  let token := Token.around (if marks = 2 then "strong" else "emphasis") o.content.reverse
  let depth := o.depth + 1
  if o.left = marks then ({ n with runs }.add (o.run.rest 0)).add token depth
  else { n with runs := { o with left := o.left - marks, content := [token], depth } :: runs }

/-- Closes runs as long as marks are left of the one that closes them, by pairs of marks where both
have two. Gives the number of marks that are left. -/
def closeRuns (r : Run) : (left : Nat) → Nesting → Nat × Nesting
  | 0, n => (0, n)
  | 1, n =>
    match partner? r n.runs with
    | some (o, runs) => closeRuns r 0 (n.wrap o runs 1)
    | none => (1, n)
  | left + 2, n =>
    match partner? r n.runs with
    | some (o, runs) =>
      if 2 ≤ o.left then closeRuns r left (n.wrap o runs 2)
      else closeRuns r (left + 1) (n.wrap o runs 1)
    | none => (left + 2, n)

/-- Adds a run, once it has closed what it can. -/
def addRun (n : Nesting) (r : Run) : Nesting :=
  let (left, n) := if r.closes then closeRuns r r.length n else (r.length, n)
  if r.opens && left != 0 then { n with runs := { run := r, left } :: n.runs }
  else n.add (r.rest left)

def addPiece (n : Nesting) : Piece → Nesting
  | .run r => n.addRun r
  | p => n.add p.literal

/-- The tokens in order; runs that are still open are text. -/
def finish (n : Nesting) : List Token := (n.runs.flatMap OpenRun.written ++ n.outer).reverse

end Nesting

/-! ### Whole sequences -/

/-- Whether two neighbouring texts stay apart, so that no reference arises between them. -/
def staysApart (left right : String) : Bool :=
  left.toList.getLast? = some '&' && (referenceBody? right.toList).isSome

/-- Tokens behind a text, with neighbouring texts joined from left to right and empty ones left out.
-/
def joinTexts (text : String) : List Token → List Token
  | [] => if text.isEmpty then [] else [.ofText text.toList]
  | t :: rest =>
    if t.type = "text" && !staysApart text t.raw then joinTexts (text ++ t.raw) rest
    else
      let before := if text.isEmpty then [] else [.ofText text.toList]
      before ++ if t.type = "text" then joinTexts t.raw rest else t :: joinTexts "" rest

/-- The tokens of running text. Where there are runs, texts that are not within emphasis are joined.
-/
def resolve (atoms : List Atom) : List Token :=
  let pieces := Piece.ofAtoms atoms
  if pieces.any Piece.isRun then
    joinTexts "" (pieces.foldl Nesting.addPiece {}).finish
  else pieces.map Piece.literal

end RichText.Markdown
