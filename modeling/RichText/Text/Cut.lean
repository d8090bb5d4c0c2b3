/-!
Cutting a text at a character.
-/
namespace RichText.Text

/-- The text before the first `c` and, if there is one, the text after it. -/
def cut (c : Char) : List Char → List Char × Option (List Char)
  | [] => ([], none)
  | d :: rest =>
    if d = c then ([], some rest)
    else
      let (before, after) := cut c rest
      (d :: before, after)

/-- The text after the last `c`, or all of it if there is none. -/
def afterLast (c : Char) : List Char → List Char
  | [] => []
  | d :: rest =>
    if rest.contains c then afterLast c rest else if d = c then rest else d :: rest

/-- The parts between the separators, one more than there are separators. -/
def splitWhere (separates : Char → Bool) : List Char → List (List Char)
  | [] => [[]]
  | d :: rest =>
    match splitWhere separates rest with
    | [] => [[d]]
    | part :: parts => if separates d then [] :: part :: parts else (d :: part) :: parts

/-- The parts between the occurrences of a character. -/
def splitAt (c : Char) (s : List Char) : List (List Char) := splitWhere (· == c) s

/-- Whether a text begins with another, and what follows. -/
def dropStart? : (start s : List Char) → Option (List Char)
  | [], s => some s
  | _ :: _, [] => none
  | c :: start, d :: s => if c = d then dropStart? start s else none

/-- The number that decimal digits stand for. -/
def natOfDigits (s : List Char) : Nat :=
  s.foldl (fun n c => 10 * n + (c.toNat - '0'.toNat)) 0

/-- An ASCII hexadecimal digit. -/
def isHexDigit (c : Char) : Bool :=
  c.isDigit || ('a' ≤ c && c ≤ 'f') || ('A' ≤ c && c ≤ 'F')

end RichText.Text
