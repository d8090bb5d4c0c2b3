/-!
The blocks of a document before their text is looked at.
-/
namespace RichText.Markdown

inductive ListMarker
  | bullet (mark : Char)
  | ordered (number : Nat) (delimiter : Char)

/-- Whether two items can be of one list. -/
def ListMarker.agrees : ListMarker → ListMarker → Bool
  | bullet a, bullet b => a = b
  | ordered _ a, ordered _ b => a = b
  | _, _ => false

/-- A block. The children of a list are items, which stand nowhere else. -/
inductive Block
  | heading (level : Nat) (text : List Char)
  | paragraph (text : List Char)
  | code (text : List Char) (info : List Char)
  | html (text : List Char)
  | thematicBreak
  | quote (children : List Block)
  | list (marker : ListMarker) (items : List Block)
  | item (children : List Block)

end RichText.Markdown
