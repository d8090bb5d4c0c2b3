/-!
White space of running text, and the words between it.
-/
namespace RichText.Text

/-- The code points of white space: the controls that move or separate, and every space of Unicode.
-/
def blanks : List (Nat × Nat) := [
  (0x9, 0xd), (0x1c, 0x20), (0x85, 0x85), (0xa0, 0xa0), (0x1680, 0x1680), (0x2000, 0x200a),
  (0x2028, 0x2029), (0x202f, 0x202f), (0x205f, 0x205f), (0x3000, 0x3000)]

/-- Whether a character is white space. A space of no width is none. -/
def isBlank (c : Char) : Bool :=
  blanks.any fun r => r.1 ≤ c.toNat && c.toNat ≤ r.2

/-- The part before the first white space, once white space in front is passed over. -/
def firstWord (s : List Char) : List Char :=
  (s.dropWhile isBlank).takeWhile (!isBlank ·)

/-- The words of a text, those empty left out. -/
def words : List Char → List (List Char)
  | [] => []
  | c :: rest =>
    if isBlank c then words rest
    else match rest, words rest with
      | d :: _, w :: ws => if isBlank d then [c] :: w :: ws else (c :: w) :: ws
      | _, ws => [c] :: ws

/-- A text without the white space at its ends. -/
def strip (s : List Char) : List Char :=
  ((s.dropWhile isBlank).reverse.dropWhile isBlank).reverse

theorem not_isBlank_of_mem_firstWord {s : List Char} {c : Char} (h : c ∈ firstWord s) :
    isBlank c = false := by
  have hall : ((s.dropWhile isBlank).takeWhile (!isBlank ·)).all (!isBlank ·) = true :=
    List.all_takeWhile
  simpa using List.all_eq_true.mp hall c h

end RichText.Text
