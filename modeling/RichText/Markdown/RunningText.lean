import RichText.Markdown.Autolink
import RichText.Markdown.Emphasis
import RichText.Markdown.Html

/-!
Running text. A passage is read from left to right; brackets and tildes that open something are kept
until what closes them is found, and are text if nothing does. The emphasis of a passage is resolved
when it ends, and of what a bracket encloses when it closes.
-/
namespace RichText.Markdown

/-- What opens a part of a passage that something else closes. No link stands in another, so
brackets around a link are no longer active. -/
inductive Bracket
  | link (isActive : Bool)
  | image
  | strikethrough
deriving DecidableEq

def Bracket.literal : Bracket → List Char
  | link _ => ['[']
  | image => ['!', '[']
  | strikethrough => ['~', '~']

/-- A bracket that is open, the text behind it, and what has been read of that, the newest first. -/
structure Level where
  bracket : Bracket
  source : List Char
  atoms : List Atom := []

namespace Level

/-- A level whose bracket is text. -/
def written (l : Level) : List Atom :=
  l.atoms ++ (l.bracket.literal.map fun c => Atom.char c false).reverse

def isStrikethrough (l : Level) : Bool := l.bracket = .strikethrough

/-- A level in which no link may end. -/
def deactivate (l : Level) : Level :=
  match l.bracket with
  | .link _ => { l with bracket := .link false }
  | _ => l

end Level

/-- What has been read: the levels that are open, the innermost first, what is before them, the
newest first, and the character read last. The ends of a passage count as white space. -/
structure Passage where
  outer : List Atom := []
  levels : List Level := []
  before : Char := '\n'

namespace Passage

/-- Changes what the innermost level has been found to hold. -/
def modify (p : Passage) (f : List Atom → List Atom) : Passage :=
  match p.levels with
  | [] => { p with outer := f p.outer }
  | l :: levels => { p with levels := { l with atoms := f l.atoms } :: levels }

/-- Adds a part that ends with a character. -/
def add (p : Passage) (a : Atom) (last : Char) : Passage :=
  { p.modify (a :: ·) with before := last }

def addChar (p : Passage) (c : Char) : Passage := p.add (.char c false) c

def addChars (p : Passage) (s : List Char) : Passage := s.foldl addChar p

def openLevel (p : Passage) (bracket : Bracket) (rest : List Char) : Passage :=
  { p with
    levels := { bracket, source := rest } :: p.levels
    before := bracket.literal.getLast?.getD p.before }

/-- The part that a level turns out to be, once those in it are text. -/
def closeLevel (p : Passage) (inner : List Level) (l : Level) (levels : List Level)
    (token : List Token → Token) (last : Char) : Passage :=
  let children := resolve (inner.flatMap Level.written ++ l.atoms).reverse
  { p with levels }.add (.token (token children)) last

/-- Takes a level for text but keeps those in it. -/
def dropLevel (p : Passage) (inner : List Level) (l : Level) (levels : List Level) : Passage :=
  let p := { p with levels }.modify (l.written ++ ·)
  { p with levels := inner ++ p.levels }

def finish (p : Passage) : List Token := resolve (p.levels.flatMap Level.written ++ p.outer).reverse

/-! ### Parts -/

/-- The code between runs of as many marks, and the text behind the second one. The marks just
before the text are `pending`. -/
def codeUpTo? (length : Nat) (pending : Nat) : List Char → Option (List Char × List Char)
  | [] => if pending = length then some ([], []) else none
  | c :: rest =>
    if c = '\x60' then codeUpTo? length (pending + 1) rest
    else if pending = length then some ([], c :: rest)
    else (codeUpTo? length 0 rest).map fun (code, behind) =>
      (List.replicate pending '\x60' ++ c :: code, behind)

/-- Code as it is meant: on one line, and without one of the spaces at each end if it has them at
both. -/
def codeText (code : List Char) : List Char :=
  let code := code.map fun c => if c = '\n' then ' ' else c
  if code.all (· = ' ') then code
  else match code, code.getLast? with
    | ' ' :: inner, some ' ' => inner.dropLast
    | code, _ => code

/-- Reads what a run of backticks begins: code, or the run itself. -/
def readCode (p : Passage) (s : List Char) : Passage × List Char :=
  let marks := s.takeWhile (· = '\x60')
  let rest := s.drop marks.length
  match codeUpTo? marks.length 0 rest with
  | some (code, rest) => (p.add (.token (.literal "codespan" (codeText code))) '\x60', rest)
  | none => (p.addChars marks, rest)

/-- Reads what an angle bracket begins: an address, a tag, or the bracket itself. -/
def readAngle (p : Passage) (s : List Char) : Passage × List Char :=
  let rest := s.drop 1
  match autolink? rest with
  | some (link, rest) => (p.add (.token link) '>', rest)
  | none =>
    match Html.inline? s with
    | some behind =>
      let html := s.take (s.length - behind.length)
      (p.add (.token (.literal "inline_html" html)) '>', behind)
    | none => (p.addChar '<', rest)

/-- Reads the end of a line. Two spaces before it make a break that shows. -/
def readLineEnd (p : Passage) (rest : List Char) : Passage × List Char :=
  let isSpace : Atom → Bool
    | .char ' ' false => true
    | _ => false
  let atoms := match p.levels with
    | [] => p.outer
    | l :: _ => l.atoms
  let isHard := 2 ≤ (atoms.takeWhile isSpace).length
  let token := Token.literal (if isHard then "linebreak" else "softbreak") []
  ((p.modify (·.dropWhile isSpace)).add (.token token) '\n', rest.dropWhile (· = ' '))

/-- Reads a backslash: a character that loses its meaning, a break of the line, or the backslash
itself. -/
def readBackslash (p : Passage) (rest : List Char) : Passage × List Char :=
  match rest with
  | '\n' :: rest => (p.add (.token (.literal "linebreak" [])) '\n', rest.dropWhile (· = ' '))
  | c :: behind =>
    if Text.isAsciiPunctuation c then (p.add (.char c true) c, behind) else (p.addChar '\\', rest)
  | [] => (p.addChar '\\', rest)

def readRun (p : Passage) (mark : Char) (s : List Char) : Passage × List Char :=
  let length := (s.takeWhile (· = mark)).length
  let rest := s.drop length
  (p.add (.run (.between mark length p.before (rest.head?.getD '\n'))) mark, rest)

/-- Whether two tildes may close what others opened: they are two, and white space is not before
them. -/
def mayStrike (p : Passage) (rest : List Char) : Bool :=
  let isEscaped := match p.levels with
    | { atoms := .char _ true :: _, .. } :: _ => true
    | _ => false
  !Text.isBlank p.before && (p.before != '~' || isEscaped) && rest.head? != some '~'

/-- Reads two tildes: the end of what is struck through or the start of it, or else the first of
them by itself. -/
def readTildes (p : Passage) (rest : List Char) : Passage × List Char :=
  let inner := p.levels.takeWhile (!·.isStrikethrough)
  match p.levels.dropWhile (!·.isStrikethrough) with
  | l :: levels =>
    if p.mayStrike rest then
      (p.closeLevel inner l levels (.around "strikethrough") '~', rest)
    else (p.addChar '~', '~' :: rest)
  | [] =>
    if rest.head?.any fun c => !Text.isBlank c && c != '~' then
      (p.openLevel .strikethrough rest, rest)
    else (p.addChar '~', '~' :: rest)

/-! ### Links -/

/-- The target that a label refers to, by what is in brackets behind it or else by itself, and the
text behind. -/
def reference? (definitions : Definitions) (source rest : List Char) :
    Option (LinkTarget × List Char) :=
  let find (label : List Char) : Option LinkTarget :=
    (labelKey? label).bind (definitions.lookup ·)
  let own := (label? source).bind fun (label, behind) =>
    if behind.length = rest.length then find label else none
  let behind := match rest with
    | '[' :: rest => label? rest
    | _ => none
  match behind with
  | none => own.map (·, rest)
  | some ([], rest) => own.map (·, rest)
  | some (label, rest) => (find label).map (·, rest)

/-- The target of a link or an image whose label is closed before `rest`, and the text behind. -/
def target? (definitions : Definitions) (source rest : List Char) :
    Option (LinkTarget × List Char) :=
  let direct := match rest with
    | '(' :: rest => inlineTarget? rest
    | _ => none
  direct <|> reference? definitions source rest

/-- Reads a closing bracket: the end of a link or an image, or the bracket itself. -/
def readClosing (definitions : Definitions) (p : Passage) (rest : List Char) :
    Passage × List Char :=
  let inner := p.levels.takeWhile (·.isStrikethrough)
  match p.levels.dropWhile (·.isStrikethrough) with
  | [] => (p.addChar ']', rest)
  | l :: levels =>
    let found := if l.bracket = .link false then none else target? definitions l.source rest
    match found with
    | none => ((p.dropLevel inner l levels).addChar ']', rest)
    | some (target, behind) =>
      let last := (rest.take (rest.length - behind.length)).getLast?.getD ']'
      if l.bracket = .image then
        (p.closeLevel inner l levels (target.token "image") last, behind)
      else (p.closeLevel inner l (levels.map Level.deactivate) (target.token "link") last, behind)

/-! ### Reading -/

/-- Reads the next part of a text that is not empty. -/
def step (strikethrough : Bool) (definitions : Definitions) (p : Passage) (c : Char)
    (rest : List Char) : Passage × List Char :=
  match c, rest with
  | '\\', _ => p.readBackslash rest
  | '\n', _ => p.readLineEnd rest
  | '\x60', _ => p.readCode (c :: rest)
  | '<', _ => p.readAngle (c :: rest)
  | '*', _ | '_', _ => p.readRun c (c :: rest)
  | '[', _ => (p.openLevel (.link true) rest, rest)
  | '!', '[' :: rest => (p.openLevel .image rest, rest)
  | ']', _ => readClosing definitions p rest
  | '~', '~' :: behind => if strikethrough then p.readTildes behind else (p.addChar c, rest)
  | _, _ => (p.addChar c, rest)

/-- Reads the parts of a text, of which there are no more than `fuel`. -/
def run (strikethrough : Bool) (definitions : Definitions) :
    (fuel : Nat) → Passage → List Char → Passage
  | 0, p, _ => p
  | _, p, [] => p
  | fuel + 1, p, c :: rest =>
    let (p, rest) := p.step strikethrough definitions c rest
    run strikethrough definitions fuel p rest

end Passage

def readText (strikethrough : Bool) (definitions : Definitions) (text : List Char) : List Token :=
  (Passage.run strikethrough definitions text.length {} text).finish

end RichText.Markdown
