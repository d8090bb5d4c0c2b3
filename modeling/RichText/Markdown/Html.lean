import RichText.Text.Cut

/-!
Tags, comments and the other constructs of HTML, as far as it takes to find where they end.
-/
namespace RichText.Markdown.Html

open RichText.Text

def isSpace (c : Char) : Bool :=
  c = ' ' || c = '\t' || c = '\n' || c = '\r' || c = '\x0b' || c = '\x0c'

/-- An ASCII letter. -/
def isLetter (c : Char) : Bool := c.isAlpha

/-- The text behind the first occurrence of another. -/
def after? (wanted : List Char) : List Char → Option (List Char)
  | [] => if wanted.isEmpty then some [] else none
  | c :: rest =>
    match dropStart? wanted (c :: rest) with
    | some behind => some behind
    | none => after? wanted rest

/-- The text behind the name of a tag. -/
def tagName? : List Char → Option (List Char)
  | c :: rest =>
    if isLetter c then some (rest.dropWhile fun c => c.isAlphanum || c = '-') else none
  | [] => none

def value? : List Char → Option (List Char)
  | '"' :: rest => after? ['"'] rest
  | '\'' :: rest => after? ['\''] rest
  | s =>
    let rest := s.dropWhile fun c => !isSpace c && !"\"'=<>\x60".toList.contains c
    if rest.length = s.length then none else some rest

/-- The text behind an attribute and the white space before it. -/
def attribute? (s : List Char) : Option (List Char) :=
  match s with
  | c :: _ =>
    if isSpace c then
      match s.dropWhile isSpace with
      | d :: rest =>
        if isLetter d || d = '_' || d = ':' then
          let rest := rest.dropWhile fun c =>
            c.isAlphanum || c = '_' || c = '.' || c = ':' || c = '-'
          match rest.dropWhile isSpace with
          | '=' :: v => some ((value? (v.dropWhile isSpace)).getD rest)
          | _ => some rest
        else none
      | [] => none
    else none
  | [] => none

/-- The text behind all attributes, of which there are no more than `fuel`. -/
def attributes : (fuel : Nat) → List Char → List Char
  | 0, s => s
  | fuel + 1, s =>
    match attribute? s with
    | some rest => attributes fuel rest
    | none => s

def openTag? : List Char → Option (List Char)
  | '<' :: s => do
    let s ← tagName? s
    match (attributes s.length s).dropWhile isSpace with
    | '>' :: rest | '/' :: '>' :: rest => some rest
    | _ => none
  | _ => none

def closeTag? : List Char → Option (List Char)
  | '<' :: '/' :: s => do
    let s ← tagName? s
    match s.dropWhile isSpace with
    | '>' :: rest => some rest
    | _ => none
  | _ => none

/-- The text behind a tag, a comment, an instruction, a declaration or literal data within text. -/
def inline? (s : List Char) : Option (List Char) :=
  match s with
  | '<' :: '!' :: '-' :: '-' :: rest =>
    match rest with
    | '>' :: rest | '-' :: '>' :: rest => some rest
    | rest => after? "-->".toList rest
  | '<' :: '?' :: rest => after? "?>".toList rest
  | '<' :: '!' :: '[' :: rest => do
    let rest ← dropStart? "CDATA[".toList rest
    after? "]]>".toList rest
  | '<' :: '!' :: c :: rest => if isLetter c then after? ['>'] rest else none
  | '<' :: '/' :: _ => closeTag? s
  | _ => openTag? s

/-! ### Blocks -/

/-- Where a block of HTML ends. -/
inductive Ending
  /-- With the line that holds one of some texts, whatever their case. -/
  | within (texts : List String)
  /-- Before a blank line. -/
  | blank

/-- Elements whose contents are literal. -/
def literalNames : List String := ["script", "pre", "style", "textarea"]

def blockNames : List String := [
  "address", "article", "aside", "base", "basefont", "blockquote", "body", "caption", "center",
  "col", "colgroup", "dd", "details", "dialog", "dir", "div", "dl", "dt", "fieldset", "figcaption",
  "figure", "footer", "form", "frame", "frameset", "h1", "h2", "h3", "h4", "h5", "h6", "head",
  "header", "hr", "html", "iframe", "legend", "li", "link", "main", "menu", "menuitem", "nav",
  "noframes", "ol", "optgroup", "option", "p", "param", "search", "section", "summary", "table",
  "tbody", "td", "tfoot", "th", "thead", "title", "tr", "track", "ul"]

/-- Whether a text begins with one of some names, in whatever case, and goes on as allowed. -/
def startsWithName (names : List String) (goesOn : List Char → Bool) (s : List Char) : Bool :=
  let name := String.ofList ((s.takeWhile fun c => c.isAlphanum || c = '-').map Char.toLower)
  names.contains name && goesOn (s.drop name.length)

/-- White space, the end of the tag or the end of the line. -/
def endsName : List Char → Bool
  | [] => true
  | c :: _ => c = ' ' || c = '\t' || c = '>'

/-- Whether nothing but a complete tag stands in a line. -/
def isLoneTag (s : List Char) : Bool :=
  match closeTag? s <|> openTag? s with
  | some rest => rest.all isSpace
  | none => false

/-- How the block ends that a line begins, if it begins one. A tag that forms no block begins one
only where no paragraph could go on. -/
def ending? (continues : Bool) (s : List Char) : Option Ending :=
  match s with
  | '<' :: '!' :: '-' :: '-' :: _ => some (.within ["-->"])
  | '<' :: '?' :: _ => some (.within ["?>"])
  | '<' :: '!' :: rest =>
    if (dropStart? "[CDATA[".toList rest).isSome then some (.within ["]]>"])
    else if rest.head?.any isLetter then some (.within [">"])
    else none
  | '<' :: rest =>
    let name := match rest with
      | '/' :: rest => rest
      | rest => rest
    if startsWithName literalNames endsName rest then
      some (.within ["</script>", "</pre>", "</style>", "</textarea>"])
    else if startsWithName blockNames
        (fun s => endsName s || (dropStart? ['/', '>'] s).isSome) name then some .blank
    else if !continues && isLoneTag s then some .blank
    else none
  | _ => none

/-- Whether a line is the last of its block. -/
def Ending.isReached (e : Ending) (line : List Char) : Bool :=
  match e with
  | within texts => texts.any fun t => (after? t.toList (line.map Char.toLower)).isSome
  | blank => false

end RichText.Markdown.Html
