import RichText.Markdown.LinkParts

/-!
Addresses between angle brackets, which are links to themselves.
-/
namespace RichText.Markdown

/-- Whether a text is the scheme of an address: a letter and up to 31 more characters. -/
def isScheme : List Char → Bool
  | c :: rest =>
    c.isAlpha && !rest.isEmpty && rest.length ≤ 31 &&
      rest.all fun c => c.isAlphanum || c = '.' || c = '+' || c = '-'
  | [] => false

def isAbsolute (s : List Char) : Bool :=
  let scheme := s.takeWhile (· != ':')
  scheme.length < s.length && isScheme scheme

/-- Whether a text is a part of the name of a host. -/
def isHostLabel (s : List Char) : Bool :=
  s.head?.any Char.isAlphanum && s.getLast?.any Char.isAlphanum && s.length ≤ 63 &&
    s.all fun c => c.isAlphanum || c = '-'

def isMailbox (s : List Char) : Bool :=
  let name := s.takeWhile (· != '@')
  let isNameChar (c : Char) : Bool :=
    c.isAlphanum || ".!#$%&'*+/=?^_\x60\x7b|\x7d~-".toList.contains c
  match s.drop name.length with
  | _ :: host =>
    !name.isEmpty && name.all isNameChar && (Text.splitAt '.' host).all isHostLabel
  | [] => false

/-- The link of an address behind its opening bracket, and the text behind the closing one. -/
def autolink? (s : List Char) : Option (Token × List Char) :=
  let body := s.takeWhile fun c => c != '<' && c != '>' && 0x20 < c.toNat
  match s.drop body.length with
  | '>' :: rest =>
    let link (target : List Char) : Option (Token × List Char) :=
      some (LinkTarget.token "link" { address := address target } [.ofText body], rest)
    if isAbsolute body then link body
    else if isMailbox body then link ("mailto:".toList ++ body)
    else none
  | _ => none

end RichText.Markdown
