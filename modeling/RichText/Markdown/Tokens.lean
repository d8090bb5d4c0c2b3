import RichText.Markdown.Line
import RichText.Markdown.RunningText

/-!
The tokens of a text: its blocks, with the running text in them read.
-/
namespace RichText.Markdown

/-- The state of the task that the text of an item begins with, and the text behind its marker. -/
def taskMarker? (text : List Char) : Option (Bool × List Char) :=
  match text with
  | '[' :: mark :: ']' :: rest =>
    if (mark = ' ' || mark = 'x' || mark = 'X') &&
        (rest.isEmpty || rest.head?.any Text.isBlank) then
      some (mark != ' ', rest.dropWhile Text.isBlank)
    else none
  | _ => none

/-- The tokens of a heading or a paragraph; one that is empty has an empty text. -/
def textTokens (readText : List Char → List Token) (text : List Char) : List Token :=
  if text.isEmpty then [.ofText []] else readText text

/-- What is known of a list by the marker of its first item. -/
def ListMarker.attributes : ListMarker → List (String × Value)
  | bullet _ => [("ordered", .bool false)]
  | ordered number _ => [("ordered", .bool true), ("start", .int number)]

mutual

def Block.token (taskLists : Bool) (readText : List Char → List Token) : Block → Token
  | .heading level text => .mk "heading" "" [("level", .int level)] (textTokens readText text)
  | .paragraph text => .around "paragraph" (textTokens readText text)
  | .code text info =>
    .mk "block_code" (String.ofList text)
      (if info.isEmpty then [] else [("info", .text (String.ofList info))]) []
  | .html text => .literal "block_html" text
  | .thematicBreak => .literal "thematic_break" []
  | .quote children => .around "block_quote" (tokens taskLists readText children)
  | .list marker items => .mk "list" "" marker.attributes (tokens taskLists readText items)
  | .item (.paragraph text :: children) =>
    match if taskLists then taskMarker? text else none with
    | some (isDone, text) =>
      .mk "task_list_item" "" [("checked", .bool isDone)]
        (.around "paragraph" (textTokens readText text) :: tokens taskLists readText children)
    | none =>
      .around "list_item"
        (.around "paragraph" (textTokens readText text) :: tokens taskLists readText children)
  | .item children => .around "list_item" (tokens taskLists readText children)

def tokens (taskLists : Bool) (readText : List Char → List Token) : List Block → List Token
  | [] => []
  | b :: bs => b.token taskLists readText :: tokens taskLists readText bs

end

def tokensOf (strikethrough taskLists : Bool) (text : List Char) : List Token :=
  let (blocks, definitions) := readBlocks text
  tokens taskLists (readText strikethrough definitions) blocks

/-- The tokenizer that reads Markdown, for where no other one is at hand. -/
instance tokenizer : Tokenizer := ⟨tokensOf⟩

end RichText.Markdown
