import RichText.Markdown.Opening

/-!
Blocks that are still open while lines are read: a chain of containers, the innermost first, and the
leaf in the innermost one. Closing a block adds it to the container around it.
-/
namespace RichText.Markdown

/-- A container that is open. The contents of an item are set in. -/
inductive Opened
  | document
  | quote
  | list (marker : ListMarker)
  | item (width : Nat)

namespace Opened

/-- Whether a container counts as a level of nesting. -/
def isLevel : Opened → Bool
  | quote | list _ => true
  | _ => false

def isList : Opened → Bool
  | list _ => true
  | _ => false

end Opened

/-- An open container and the blocks in it, the newest first. -/
structure Frame where
  container : Opened
  blocks : List Block := []

/-- The block of a container that is closed. -/
def Frame.block (f : Frame) : Block :=
  match f.container with
  | .document | .quote => .quote f.blocks.reverse
  | .list marker => .list marker f.blocks.reverse
  | .item _ => .item f.blocks.reverse

/-- A leaf that is open, with its lines, the newest first. -/
inductive OpenLeaf
  | paragraph (lines : List (List Char))
  | indented (lines : List (List Char))
  | fenced (fence : Fence) (lines : List (List Char))
  | html (ending : Html.Ending) (lines : List (List Char))

def OpenLeaf.isParagraph : OpenLeaf → Bool
  | paragraph _ => true
  | _ => false

/-- What is open, the innermost container first, and the definitions found so far. -/
structure Spine where
  frames : List Frame := [{ container := .document }]
  leaf : Option OpenLeaf := none
  definitions : Definitions := []

/-- Lines, each with its end. -/
def withEnds (lines : List (List Char)) : List Char := lines.flatMap (· ++ ['\n'])

namespace Spine

def inParagraph (s : Spine) : Bool := s.leaf.any OpenLeaf.isParagraph

def add (s : Spine) (b : Block) : Spine :=
  match s.frames with
  | [] => s
  | f :: rest => { s with frames := { f with blocks := b :: f.blocks } :: rest }

/-- Takes the definitions off the lines of a paragraph, the newest line first. -/
def define (s : Spine) (lines : List (List Char)) : Spine × List Char :=
  let text := ['\n'].intercalate lines.reverse
  let (definitions, rest) := takeDefinitions text.length text
  ({ s with definitions := s.definitions ++ definitions }, rest)

/-- Closes the leaf. A paragraph that was nothing but definitions leaves no block. -/
def closeLeaf (s : Spine) : Spine :=
  match s.leaf with
  | none => s
  | some leaf =>
    let s := { s with leaf := none }
    match leaf with
    | .paragraph lines =>
      let (s, rest) := s.define lines
      match trim rest with
      | [] => s
      | text => s.add (.paragraph text)
    | .indented lines =>
      let lines := (lines.dropWhile (·.all isSpace)).reverse
      s.add (.code (['\n'].intercalate lines) [])
    | .fenced fence lines => s.add (.code (withEnds lines.reverse) fence.info)
    | .html _ lines => s.add (.html (withEnds lines.reverse))

/-- Closes as many containers as asked for; the document stays open. -/
def closeFrames : (count : Nat) → List Frame → List Frame
  | count + 1, f :: g :: rest =>
    closeFrames count ({ g with blocks := f.block :: g.blocks } :: rest)
  | _, frames => frames

/-- Closes the leaf and all containers but the outermost ones. -/
def closeTo (s : Spine) (keep : Nat) : Spine :=
  let s := s.closeLeaf
  { s with frames := closeFrames (s.frames.length - keep) s.frames }

/-- Closes the list that is innermost, if one is: only items stand in a list. -/
def leaveList (s : Spine) : Spine :=
  match s.frames with
  | f :: _ => if f.container.isList then s.closeTo (s.frames.length - 1) else s
  | [] => s

/-- Adds a block where blocks stand. -/
def addBlock (s : Spine) (b : Block) : Spine := s.leaveList.add b

/-- Opens a leaf where blocks stand. -/
def openLeaf (s : Spine) (leaf : OpenLeaf) : Spine := { s.leaveList with leaf := some leaf }

def openFrame (s : Spine) (container : Opened) : Spine :=
  { s with frames := { container } :: s.frames }

def levels (s : Spine) : Nat := s.frames.countP (·.container.isLevel)

/-- Whether the innermost container is a list that an item can be of. -/
def canTake (s : Spine) (marker : ListMarker) : Bool :=
  match s.frames with
  | { container := .list m, .. } :: _ => m.agrees marker
  | _ => false

/-- Everything closed: the blocks of the document and the definitions. -/
def finish (s : Spine) : List Block × Definitions :=
  let s := s.closeTo 1
  (s.frames.flatMap (·.blocks.reverse), s.definitions)

end Spine

end RichText.Markdown
