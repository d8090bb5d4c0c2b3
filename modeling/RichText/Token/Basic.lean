import RichText.Value

/-!
Tokens: what the syntax of a document is made of, before it is taken for a document.
-/
namespace RichText

/-- A piece of syntax of some type, with its literal text, its attributes and the tokens inside. -/
inductive Token
  | mk (type : String) (raw : String) (attributes : List (String × Value)) (children : List Token)

namespace Token

def type : Token → String
  | mk type _ _ _ => type

def raw : Token → String
  | mk _ raw _ _ => raw

/-- What else is known of the token. -/
def attributes : Token → List (String × Value)
  | mk _ _ attributes _ => attributes

def children : Token → List Token
  | mk _ _ _ children => children

/-- A token that is nothing but literal text. -/
def literal (type : String) (raw : List Char) : Token := mk type (String.ofList raw) [] []

/-- A token around others. -/
def around (type : String) (children : List Token) : Token := mk type "" [] children

def ofText (s : List Char) : Token := literal "text" s

end Token

/-- How texts are read as tokens, with strikethrough and task lists or without them. What is said of a
tokenizer is meant of one whose tokens have texts for `info`, `url` and `title` and an integer for
`start`, if they have these attributes. -/
class Tokenizer where
  tokens : (strikethrough taskLists : Bool) → (text : List Char) → List Token

inductive BlockSort
  | heading | paragraph | codeBlock | blockQuote | list | thematicBreak | htmlBlock | blankLine
deriving DecidableEq

/-- The syntax of a type in the place of a block. -/
def BlockSort.ofType? : String → Option BlockSort
  | "heading" => some .heading
  | "paragraph" | "block_text" => some .paragraph
  | "block_code" => some .codeBlock
  | "block_quote" => some .blockQuote
  | "list" => some .list
  | "thematic_break" => some .thematicBreak
  | "block_html" => some .htmlBlock
  | "blank_line" => some .blankLine
  | _ => none

inductive InlineSort
  | text | strong | emphasis | strikethrough | codeSpan | link | image | lineBreak | softBreak
  | inlineHtml
deriving DecidableEq

def InlineSort.ofType? : String → Option InlineSort
  | "text" => some .text
  | "strong" => some .strong
  | "emphasis" => some .emphasis
  | "strikethrough" => some .strikethrough
  | "codespan" => some .codeSpan
  | "link" => some .link
  | "image" => some .image
  | "linebreak" => some .lineBreak
  | "softbreak" => some .softBreak
  | "inline_html" => some .inlineHtml
  | _ => none

end RichText
