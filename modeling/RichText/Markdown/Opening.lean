import RichText.Markdown.Block
import RichText.Markdown.Cursor
import RichText.Markdown.Html
import RichText.Markdown.LinkParts

/-!
What a line can begin: the openings of blocks, each found at a place in a line behind the markers of
the containers around it.
-/
namespace RichText.Markdown

def codeIndent : Nat := 4

def quoteStart? (c : Cursor) : Option Cursor :=
  if codeIndent ≤ c.indent then none
  else match c.content with
    | '>' :: rest =>
      let c := c.skipIndent.skip 1
      some (if rest.head?.any isSpace then c.advance 1 else c)
    | _ => none

/-- A text without the white space that blocks lose at their ends. -/
def trim (s : List Char) : List Char :=
  let isEdge (c : Char) : Bool := c = ' ' || c = '\r' || c = '\n' || c = '\t' || c = '\x0c'
  ((s.dropWhile isEdge).reverse.dropWhile isEdge).reverse

/-- The text of a heading without the marks that may close it. -/
def dropClosing (s : List Char) : List Char :=
  let reversed := s.reverse.dropWhile isSpace
  match reversed.dropWhile (· = '#') with
  | [] => []
  | c :: rest => if isSpace c then (c :: rest).reverse else reversed.reverse

/-- The rank and the text of a heading that a line holds. -/
def heading? (c : Cursor) : Option (Nat × List Char) :=
  if codeIndent ≤ c.indent then none
  else
    let marks := c.content.takeWhile (· = '#')
    let rest := c.content.drop marks.length
    if marks.isEmpty || 6 < marks.length || !(rest.isEmpty || rest.head?.any isSpace) then none
    else some (marks.length, trim (dropClosing rest))

/-- The rank of the heading that a line makes of the paragraph before it. -/
def underline? (c : Cursor) : Option Nat :=
  if codeIndent ≤ c.indent then none
  else
    let s := (c.content.reverse.dropWhile isSpace).reverse
    if s.isEmpty then none
    else if s.all (· = '=') then some 1
    else if s.all (· = '-') then some 2
    else none

/-- Whether a line is nothing but three or more marks of one sort. -/
def isThematicBreak (c : Cursor) : Bool :=
  let marks := c.content.filter (!isSpace ·)
  c.indent < codeIndent && 3 ≤ marks.length &&
    (marks.all (· = '*') || marks.all (· = '-') || marks.all (· = '_'))

/-- A fence around code: its mark, how many there are, how far they are set in, and the text behind.
-/
structure Fence where
  mark : Char
  length : Nat
  indent : Nat
  info : List Char

def fence? (c : Cursor) : Option Fence :=
  if codeIndent ≤ c.indent then none
  else match c.content with
    | [] => none
    | mark :: _ =>
      let length := (c.content.takeWhile (· = mark)).length
      let info := c.content.drop length
      if length < 3 then none
      else if mark = '~' || (mark = '\x60' && !info.contains '\x60') then
        some ⟨mark, length, c.indent, unescape (trim info)⟩
      else none

/-- Whether a line ends the code within a fence. -/
def Fence.isClosedBy (f : Fence) (c : Cursor) : Bool :=
  let length := (c.content.takeWhile (· = f.mark)).length
  c.indent < codeIndent && f.length ≤ length && (c.content.drop length).all isSpace

/-- The marker of an item and its length. Where it would interrupt a paragraph, a number is one. -/
def listMarker? (interrupts : Bool) (s : List Char) : Option (ListMarker × Nat) :=
  match s with
  | [] => none
  | mark :: _ =>
    if mark = '-' || mark = '+' || mark = '*' then some (.bullet mark, 1)
    else
      let digits := s.takeWhile Char.isDigit
      let number := Text.natOfDigits digits
      match s.drop digits.length with
      | [] => none
      | delimiter :: _ =>
        if digits.isEmpty || 9 < digits.length || !(delimiter = '.' || delimiter = ')') ||
            (interrupts && number != 1) then none
        else some (.ordered number delimiter, digits.length + 1)

/-- The start of an item: its marker, how many columns its contents are set in, and the place where
they begin. -/
structure ItemStart where
  marker : ListMarker
  width : Nat
  content : Cursor

/-- The item that a line begins. An empty one does not interrupt a paragraph. -/
def itemStart? (interrupts : Bool) (c : Cursor) : Option ItemStart :=
  if codeIndent ≤ c.indent then none
  else
    match listMarker? interrupts c.content with
    | none => none
    | some (marker, length) =>
      let behind := c.skipIndent.skip length
      let isEmpty := behind.isBlank
      if !(behind.rest.isEmpty || behind.rest.head?.any isSpace) || (interrupts && isEmpty) then
        none
      else if isEmpty || codeIndent < behind.indent then
        some ⟨marker, c.indent + length + 1, behind.advance 1⟩
      else some ⟨marker, c.indent + length + behind.indent, behind.skipIndent⟩

end RichText.Markdown
