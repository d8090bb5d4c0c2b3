/-!
The kinds of nodes a document is built of.
-/
namespace RichText

/-- What a node is, its contents aside. -/
inductive Kind
  | document | paragraph | heading | blockQuote | unorderedList | orderedList | listItem
  | emphasis | strong | strikethrough | link | image
  | text | inlineCode | codeBlock | htmlBlock | inlineHtml
  | thematicBreak | lineBreak | softBreak
deriving DecidableEq

namespace Kind

/-- The kinds that have a rendering of their own; of the others only the children show. -/
def isStyled : Kind → Bool
  | image | htmlBlock | inlineHtml | thematicBreak | lineBreak | softBreak => false
  | _ => true

def isList : Kind → Bool
  | unorderedList | orderedList => true
  | _ => false

def tag : Kind → String
  | document => "document"
  | paragraph => "paragraph"
  | heading => "heading"
  | blockQuote => "block_quote"
  | unorderedList => "unordered_list"
  | orderedList => "ordered_list"
  | listItem => "list_item"
  | emphasis => "emphasis"
  | strong => "strong"
  | strikethrough => "strikethrough"
  | link => "link"
  | image => "image"
  | text => "text"
  | inlineCode => "inline_code"
  | codeBlock => "code_block"
  | htmlBlock => "html_block"
  | inlineHtml => "inline_html"
  | thematicBreak => "thematic_break"
  | lineBreak => "line_break"
  | softBreak => "soft_break"

def name : Kind → String
  | document => "Document"
  | paragraph => "Paragraph"
  | heading => "Heading"
  | blockQuote => "BlockQuote"
  | unorderedList => "UnorderedList"
  | orderedList => "OrderedList"
  | listItem => "ListItem"
  | emphasis => "Emphasis"
  | strong => "Strong"
  | strikethrough => "Strikethrough"
  | link => "Link"
  | image => "Image"
  | text => "Text"
  | inlineCode => "InlineCode"
  | codeBlock => "CodeBlock"
  | htmlBlock => "HTMLBlock"
  | inlineHtml => "InlineHTML"
  | thematicBreak => "ThematicBreak"
  | lineBreak => "LineBreak"
  | softBreak => "SoftBreak"

end Kind

end RichText
