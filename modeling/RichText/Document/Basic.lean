import RichText.Document.Source
import RichText.Markdown.Tokens
import RichText.Render.Basic
import RichText.Token.Nodes

/-!
Documents read from sources, and their styled text. Which tokens a text consists of is up to a
tokenizer.
-/
namespace RichText

variable [Tokenizer]

/-- Why a source has no styled text. -/
inductive DocumentFault
  | reading (cause : ReadFault)
  | rendering (cause : RenderFault)

def Document.ofText (o : ReadingOptions) (text : List Char) : Logged Tree := do
  let document ← Token.document (Tokenizer.tokens o.strikethrough o.taskLists text)
  .report .parsed
  return document

def Source.document (o : ReadingOptions) (s : Source) : Traced ReadFault Tree := do
  let text ← s.content o.toDecodingOptions
  Document.ofText o text

def Source.styledText (o : ReadingOptions) (r : Renderer) (s : Source) :
    Traced DocumentFault StyledText := do
  let document ← (s.document o).mapFault .reading
  .report (.topLevelBlocks document.children.length)
  (r.render document.placed).mapFault .rendering

end RichText
