import RichText.Log
import RichText.Node.Basic
import RichText.Text.Blank
import RichText.Token.Basic

/-!
Taking tokens for nodes. A token whose type has no meaning where it stands is skipped with
everything inside, and reported. Breaks of lines become text.

Where they are given, the attributes `info`, `url` and `title` are texts and `start` is an integer.
Tokens in which they are anything else are not accounted for: such a value counts as left out here,
where it might as well be a failure.
-/
namespace RichText.Token

def headingLevel (attributes : List (String × Value)) : HeadingLevel :=
  match (attributes.lookup "level").bind Value.int? with
  | some level => (HeadingLevel.ofInt? level).getD .top
  | none => .top

/-- The language of a code block: the first word of the text after the fence. -/
def language (attributes : List (String × Value)) : Option String :=
  match (attributes.lookup "info").bind Value.text? with
  | some info =>
    match Text.firstWord info.toList with
    | [] => none
    | word => some (String.ofList word)
  | none => none

/-- What sort of list is meant, and the integer it starts at. -/
def listContainer (attributes : List (String × Value)) : Container :=
  if (attributes.lookup "ordered").any Value.isTrue then
    .orderedList (((attributes.lookup "start").bind Value.int?).getD 1)
  else .unorderedList

/-- The state of a task, if the item is one. -/
def task (attributes : List (String × Value)) : Option Task :=
  (attributes.lookup "checked").map fun v => if v.isTrue then .checked else .unchecked

/-- An attribute that is a text if it is given. -/
def textAttribute (attributes : List (String × Value)) (name : String) : Option String :=
  (attributes.lookup name).bind Value.text?

mutual

/-- The node of a token within running text. -/
def inline : Token → Logged (Option Tree)
  | mk type raw attributes children =>
    match InlineSort.ofType? type with
    | some .text => pure (some (.text raw))
    | some .strong => do return some (.branch .strong (← inlines children))
    | some .emphasis => do return some (.branch .emphasis (← inlines children))
    | some .strikethrough => do return some (.branch .strikethrough (← inlines children))
    | some .codeSpan => pure (some (.leaf (.inlineCode raw)))
    | some .link => do
      let children ← inlines children
      return some (.branch
        (.link (textAttribute attributes "url") (textAttribute attributes "title")) children)
    | some .image => do
      let children ← inlines children
      return some (.branch
        (.image (textAttribute attributes "url") (textAttribute attributes "title")) children)
    | some .lineBreak => pure (some (.text "\n"))
    | some .softBreak => pure (some (.text " "))
    | some .inlineHtml => pure (some (.leaf (.inlineHtml raw)))
    | none => do
      .report (.skippedInline type)
      return none

def inlines : List Token → Logged (List Tree)
  | [] => pure []
  | t :: ts => do
    let node ← inline t
    let nodes ← inlines ts
    return node.toList ++ nodes

end

mutual

def block : Token → Logged (Option Tree)
  | mk type raw attributes children =>
    match BlockSort.ofType? type with
    | some .heading => do
      return some (.branch (.heading (headingLevel attributes)) (← inlines children))
    | some .paragraph => do return some (.branch .paragraph (← inlines children))
    | some .codeBlock => pure (some (.leaf (.codeBlock raw (language attributes))))
    | some .blockQuote => do return some (.branch .blockQuote (← blocks children))
    | some .list => do return some (.branch (listContainer attributes) (← items children))
    | some .thematicBreak => pure (some (.leaf .thematicBreak))
    | some .htmlBlock => pure (some (.leaf (.htmlBlock raw)))
    | some .blankLine => pure none
    | none => do
      .report (.skippedBlock type)
      return none

def blocks : List Token → Logged (List Tree)
  | [] => pure []
  | t :: ts => do
    let node ← block t
    let nodes ← blocks ts
    return node.toList ++ nodes

/-- The items of a list: every token inside is one, whatever its type. -/
def items : List Token → Logged (List Tree)
  | [] => pure []
  | mk _ _ attributes children :: ts => do
    let children ← blocks children
    let item : Tree := .branch (.listItem (task attributes)) children
    let rest ← items ts
    return item :: rest

end

def document (ts : List Token) : Logged Tree := do
  return .branch .document (← blocks ts)

end RichText.Token
