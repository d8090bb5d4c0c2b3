/-!
A place in a line, in columns. A tab leads to the next column that four divides; where only part of
one is taken, its other columns are left as spaces.
-/
namespace RichText.Markdown

/-- A place in a line: the column, how many columns of a tab are left over, and the text behind
them. -/
structure Cursor where
  column : Nat := 0
  pending : Nat := 0
  rest : List Char

/-- How many columns a tab takes up from a column. -/
def tabWidth (column : Nat) : Nat := 4 - column % 4

/-- Spaces and tabs. -/
def isSpace (c : Char) : Bool := c = ' ' || c = '\t'

/-- How many columns of spaces and tabs a text begins with, from a column, and the text behind them.
-/
def leading (column : Nat) : List Char → Nat × List Char
  | ' ' :: rest =>
    let (width, rest) := leading (column + 1) rest
    (width + 1, rest)
  | '\t' :: rest =>
    let (width, rest) := leading (column + tabWidth column) rest
    (width + tabWidth column, rest)
  | rest => (0, rest)

/-- Goes as many columns further as asked for, as long as there are spaces and tabs. -/
def advanceOver (count column : Nat) : List Char → Cursor
  | ' ' :: rest =>
    if count = 0 then ⟨column, 0, ' ' :: rest⟩ else advanceOver (count - 1) (column + 1) rest
  | '\t' :: rest =>
    if count = 0 then ⟨column, 0, '\t' :: rest⟩
    else if tabWidth column ≤ count then
      advanceOver (count - tabWidth column) (column + tabWidth column) rest
    else ⟨column + count, tabWidth column - count, rest⟩
  | rest => ⟨column, 0, rest⟩

namespace Cursor

def indent (c : Cursor) : Nat := c.pending + (leading (c.column + c.pending) c.rest).1

def content (c : Cursor) : List Char := (leading (c.column + c.pending) c.rest).2

def skipIndent (c : Cursor) : Cursor := ⟨c.column + c.indent, 0, c.content⟩

def isBlank (c : Cursor) : Bool := c.content.isEmpty

/-- The text that follows, with spaces for what is left of a tab. -/
def text (c : Cursor) : List Char := List.replicate c.pending ' ' ++ c.rest

def advance (c : Cursor) (count : Nat) : Cursor :=
  if count ≤ c.pending then { c with column := c.column + count, pending := c.pending - count }
  else advanceOver (count - c.pending) (c.column + c.pending) c.rest

/-- Goes over characters that are no white space. -/
def skip (c : Cursor) (count : Nat) : Cursor := ⟨c.column + count, 0, c.rest.drop count⟩

end Cursor

end RichText.Markdown
