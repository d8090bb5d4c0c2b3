import RichText.Markdown.Spine

/-!
Reading lines. A line first goes on with the containers that are open, then opens new ones, and what
is left of it is text. Text that follows a paragraph goes on with it even where the markers of the
containers around the paragraph are left out.
-/
namespace RichText.Markdown

/-- How many quotes and lists there may be one in the other; further markers are text. -/
def maxLevels : Nat := 20

/-- The place behind what a container asks of a line to go on. A list goes on with any line; an item
that has no contents yet ends with a blank one. -/
def Opened.goOn? (isEmpty : Bool) (c : Cursor) : Opened → Option Cursor
  | document | list _ => some c
  | quote => quoteStart? c
  | item width =>
    if c.isBlank then if isEmpty then none else some c.skipIndent
    else if width ≤ c.indent then some (c.advance width)
    else none

/-- How many containers go on in a line, the outermost first, and the place behind their markers. -/
def goOn (hasLeaf : Bool) (c : Cursor) : List Frame → Nat × Cursor
  | [] => (0, c)
  | f :: inner =>
    let isEmpty := f.blocks.isEmpty && inner.isEmpty && !hasLeaf
    match f.container.goOn? isEmpty c with
    | none => (0, c)
    | some c =>
      let (count, c) := goOn hasLeaf c inner
      (count + 1, c)

/-- What stands before the rest of a line. -/
inductive Tip
  /-- A paragraph that goes on unless something else begins. -/
  | paragraph
  /-- A paragraph in a container whose marker is left out. -/
  | lazyParagraph
  | other
deriving DecidableEq

/-- Whether text would go on with a paragraph. -/
def Tip.isParagraph : Tip → Bool
  | other => false
  | _ => true

namespace Spine

/-- Takes the definitions off the paragraph that is open. -/
def peel (s : Spine) : Spine :=
  match s.leaf with
  | some (.paragraph lines) =>
    let (s, rest) := s.define lines
    { s with leaf := some (.paragraph (if rest.isEmpty then [] else [rest])) }
  | _ => s

def paragraphText (s : Spine) : List Char :=
  match s.leaf with
  | some (.paragraph lines) => trim (['\n'].intercalate lines.reverse)
  | _ => []

/-- Adds a line to the block of HTML that is open, and closes it with its last line. -/
def addHtml (s : Spine) (ending : Html.Ending) (lines : List (List Char)) (line : List Char) :
    Spine :=
  let s := { s with leaf := some (.html ending (line :: lines)) }
  if ending.isReached line then s.closeLeaf else s

/-- Adds text to the paragraph that is open, or opens one. -/
def addText (s : Spine) (keep : Nat) (tip : Tip) (c : Cursor) : Spine :=
  if c.isBlank then s.closeTo keep
  else match tip, s.leaf with
    | .paragraph, some (.paragraph lines) | .lazyParagraph, some (.paragraph lines) =>
      { s with leaf := some (.paragraph (c.content :: lines)) }
    | _, _ => (s.closeTo keep).openLeaf (.paragraph [c.content])

/-- The spine with an item begun, where there may be one. -/
def beginItem? (s : Spine) (marker : ListMarker) (width : Nat) : Option Spine :=
  if s.canTake marker then some (s.openFrame (.item width))
  else
    let s := s.leaveList
    if s.levels < maxLevels then some ((s.openFrame (.list marker)).openFrame (.item width))
    else none

def beginQuote? (s : Spine) : Option Spine :=
  let s := s.leaveList
  if s.levels < maxLevels then some (s.openFrame .quote) else none

/-- What is left of a line begins blocks, of which there are no more than `fuel`, or is text. Only
the outermost `keep` containers go on; the others are closed as soon as the line turns out not to
belong to a paragraph in them. -/
def readRest : (fuel : Nat) → (keep : Nat) → Tip → Cursor → Spine → Spine
  | 0, keep, tip, c, s => s.addText keep tip c
  | fuel + 1, keep, tip, c, s =>
    let isUnderlined := tip = .paragraph && (underline? c).isSome
    let s := if isUnderlined then s.peel else s
    let within (s : Spine) (c : Cursor) : Spine := readRest fuel s.frames.length .other c s
    match (quoteStart? c).bind fun c => (s.closeTo keep).beginQuote?.map (·, c) with
    | some (s, c) => within s c
    | none =>
      match heading? c with
      | some (level, text) => (s.closeTo keep).addBlock (.heading level text)
      | none =>
        match fence? c with
        | some fence => (s.closeTo keep).openLeaf (.fenced fence [])
        | none =>
          match if c.indent < codeIndent then Html.ending? tip.isParagraph c.content else none with
          | some ending => (s.closeTo keep).leaveList.addHtml ending [] c.text
          | none =>
            match if isUnderlined && !s.paragraphText.isEmpty then underline? c else none with
            | some level => { s with leaf := none }.addBlock (.heading level s.paragraphText)
            | none =>
              if isThematicBreak c then (s.closeTo keep).addBlock .thematicBreak
              else
                match (itemStart? (tip = .paragraph) c).bind fun item =>
                    ((s.closeTo keep).beginItem? item.marker item.width).map (·, item.content) with
                | some (s, c) => within s c
                | none =>
                  if codeIndent ≤ c.indent && !tip.isParagraph && !c.isBlank then
                    (s.closeTo keep).openLeaf (.indented [(c.advance codeIndent).text])
                  else s.addText keep tip c

def readLine (s : Spine) (line : List Char) : Spine :=
  let (keep, c) := goOn s.leaf.isSome { rest := line } s.frames.reverse
  let rest (tip : Tip) : Spine := s.readRest (line.length + 1) keep tip c
  if keep < s.frames.length then rest (if s.inParagraph then .lazyParagraph else .other)
  else
    match s.leaf with
    | none => rest .other
    | some (.paragraph _) => if c.isBlank then s.closeLeaf else rest .paragraph
    | some (.fenced fence lines) =>
      if fence.isClosedBy c then s.closeLeaf
      else { s with leaf := some (.fenced fence ((c.advance fence.indent).text :: lines)) }
    | some (.html ending lines) =>
      match ending with
      | .blank => if c.isBlank then s.closeLeaf else s.addHtml ending lines c.text
      | .within _ => s.addHtml ending lines c.text
    | some (.indented lines) =>
      if codeIndent ≤ c.indent then
        { s with leaf := some (.indented ((c.advance codeIndent).text :: lines)) }
      else if c.isBlank then { s with leaf := some (.indented ([] :: lines)) }
      else rest .other

end Spine

/-- A text in which every line ends with a line feed alone. -/
def unifyEnds : List Char → List Char
  | [] => []
  | '\r' :: '\n' :: rest => '\n' :: unifyEnds rest
  | c :: rest => (if c = '\r' then '\n' else c) :: unifyEnds rest

/-- The blocks of a text, and the definitions in it. -/
def readBlocks (text : List Char) : List Block × Definitions :=
  ((Text.splitAt '\n' (unifyEnds text)).foldl Spine.readLine {}).finish

end RichText.Markdown
