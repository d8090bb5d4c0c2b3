import RichText.Markdown.Destination
import RichText.Text.Blank
import RichText.Text.Casefold
import RichText.Text.Punctuation
import RichText.Token.Basic

/-!
The parts of links: labels, destinations and titles, and the definitions that labels refer to.
-/
namespace RichText.Markdown

structure LinkTarget where
  address : String
  title : Option String := none

def LinkTarget.token (type : String) (t : LinkTarget) (label : List Token) : Token :=
  let title := t.title.toList.map fun title => ("title", Value.text title)
  .mk type "" (("url", .text t.address) :: title) label

/-- A text without the backslashes before punctuation. -/
def unescape : List Char → List Char
  | [] => []
  | '\\' :: c :: rest =>
    if Text.isAsciiPunctuation c then c :: unescape rest else '\\' :: c :: unescape rest
  | c :: rest => c :: unescape rest

/-- A label behind its opening bracket, as it is written, and the text behind its closing one. -/
def label? : List Char → Option (List Char × List Char)
  | [] => none
  | ']' :: rest => some ([], rest)
  | '[' :: _ => none
  | '\\' :: c :: rest => (label? rest).map fun (l, rest) => ('\\' :: c :: l, rest)
  | c :: rest => (label? rest).map fun (l, rest) => (c :: l, rest)

def maxLabel : Nat := 999

/-- What a label is known by: its words, whatever their case; nothing if it has none or is too long.
-/
def labelKey? (label : List Char) : Option (List Char) :=
  let key := Text.fold ([' '].intercalate (Text.words label))
  if key.isEmpty || maxLabel < label.length then none else some key

def skipSpaces (s : List Char) : List Char := s.dropWhile fun c => c = ' ' || c = '\t'

/-- The text behind spaces, tabs and at most one end of a line. -/
def skipBreak (s : List Char) : List Char :=
  match skipSpaces s with
  | '\n' :: rest => skipSpaces rest
  | rest => rest

/-- A destination behind its opening angle bracket, and the text behind the closing one. -/
def bracketed? : List Char → Option (List Char × List Char)
  | [] => none
  | '>' :: rest => some ([], rest)
  | '<' :: _ | '\n' :: _ => none
  | '\\' :: c :: rest =>
    if c = '\n' then none else (bracketed? rest).map fun (d, rest) => ('\\' :: c :: d, rest)
  | c :: rest => (bracketed? rest).map fun (d, rest) => (c :: d, rest)

/-- Whether a character ends a destination without brackets: spaces and controls. -/
def endsDestination (c : Char) : Bool := c.toNat ≤ 0x20 || c.toNat = 0x7f

/-- A destination without brackets, in which parentheses come in pairs, and the text behind. -/
def bare? (depth : Nat) : List Char → Option (List Char × List Char)
  | [] => if depth = 0 then some ([], []) else none
  | '\\' :: c :: rest =>
    if !Text.isAsciiPunctuation c && endsDestination c then
      if depth = 0 then some (['\\'], c :: rest) else none
    else (bare? depth rest).map fun (d, rest) => ('\\' :: c :: d, rest)
  | c :: rest =>
    if endsDestination c then if depth = 0 then some ([], c :: rest) else none
    else if c = ')' && depth = 0 then some ([], c :: rest)
    else
      let depth := if c = '(' then depth + 1 else if c = ')' then depth - 1 else depth
      (bare? depth rest).map fun (d, rest) => (c :: d, rest)

/-- A destination and the text behind. One without brackets may be empty only where a parenthesis
closes. -/
def destination? (s : List Char) : Option (List Char × List Char) :=
  match s with
  | '<' :: rest => bracketed? rest
  | s =>
    match bare? 0 s with
    | some ([], ')' :: rest) => some ([], ')' :: rest)
    | some ([], _) => none
    | found => found

/-- A title behind its opening mark, and the text behind the closing one. -/
def titleUpTo? (close : Char) : List Char → Option (List Char × List Char)
  | [] => none
  | '\\' :: c :: rest => (titleUpTo? close rest).map fun (t, rest) => ('\\' :: c :: t, rest)
  | c :: rest =>
    if c = close then some ([], rest)
    else if c = '(' && close = ')' then none
    else (titleUpTo? close rest).map fun (t, rest) => (c :: t, rest)

def title? : List Char → Option (List Char × List Char)
  | '"' :: rest => titleUpTo? '"' rest
  | '\'' :: rest => titleUpTo? '\'' rest
  | '(' :: rest => titleUpTo? ')' rest
  | _ => none

/-- The target of a destination and a title as they are written. An empty title is none. -/
def LinkTarget.ofParts (destination : List Char) (title : Option (List Char)) : LinkTarget where
  address := Markdown.address (unescape destination)
  title := match title with
    | none | some [] => none
    | some t => some (String.ofList (unescape t))

/-- A destination and a title between parentheses, behind the opening one, and the text behind. -/
def inlineTarget? (s : List Char) : Option (LinkTarget × List Char) := do
  let (destination, s) ← destination? (skipBreak s)
  let spaced := skipBreak s
  let (title, s) := match title? spaced with
    | some (t, rest) =>
      if spaced.length < s.length then (some t, skipBreak rest) else (none, spaced)
    | none => (none, spaced)
  match s with
  | ')' :: rest => some (.ofParts destination title, rest)
  | _ => none

/-! ### Definitions -/

/-- What labels refer to, by their keys. Of two definitions for one label the first counts. -/
abbrev Definitions := List (List Char × LinkTarget)

/-- The text behind the end of a line that holds nothing more. -/
def lineEnd? (s : List Char) : Option (List Char) :=
  match skipSpaces s with
  | [] => some []
  | '\n' :: rest => some rest
  | _ => none

/-- A definition that a paragraph begins with, and the rest of the paragraph. What could be a title
but is not alone in its line belongs to the rest. -/
def definition? (s : List Char) : Option ((List Char × LinkTarget) × List Char) :=
  match s with
  | '[' :: s => do
    let (label, s) ← label? s
    let key ← labelKey? label
    match s with
    | ':' :: s => do
      let (destination, s) ← destination? (skipBreak s)
      let spaced := skipBreak s
      let titled := if spaced.length < s.length then
          (title? spaced).bind fun (t, rest) => (lineEnd? rest).map (t, ·)
        else none
      match titled with
      | some (t, rest) => some ((key, .ofParts destination (some t)), rest)
      | none => (lineEnd? s).map fun rest => ((key, .ofParts destination none), rest)
    | _ => none
  | _ => none

/-- The definitions that a paragraph begins with, of which there are no more than `fuel`, and the
rest. -/
def takeDefinitions : (fuel : Nat) → List Char → Definitions × List Char
  | 0, s => ([], s)
  | fuel + 1, s =>
    match definition? s with
    | none => ([], s)
    | some (d, rest) =>
      let (ds, rest) := takeDefinitions fuel rest
      (d :: ds, rest)

end RichText.Markdown
