import RichText.Encoding.Utf8
import RichText.Markdown.CharacterNames
import RichText.Text.Cut
import RichText.Text.Quoted

/-!
Where links and images lead: references to characters are resolved, and what may not stand in an
address is written as the bytes of its encoding, two hexadecimal digits each.
-/
namespace RichText.Markdown

/-! ### References to characters -/

def natOfHex (s : List Char) : Nat :=
  s.foldl (fun n c =>
    16 * n + (if c.isDigit then c.toNat - '0'.toNat else c.toLower.toNat - 'a'.toNat + 10)) 0

def characterNames : List (List Char × List Char) :=
  let words := characterNameText.flatMap fun line => Text.splitAt ' ' line.toList
  let rec pair : List (List Char) → List (List Char × List Char)
    | name :: codes :: rest =>
      (name, (Text.splitAt ',' codes).map fun code => Char.ofNat (natOfHex code)) :: pair rest
    | _ => []
  pair words

/-- Numbers that stand for another character than their own: zero, and those of controls that once
were used for letters and marks. -/
def renumbered : List (Nat × Nat) := [
  (0x0, 0xfffd), (0xd, 0xd), (0x80, 0x20ac), (0x81, 0x81), (0x82, 0x201a), (0x83, 0x192),
  (0x84, 0x201e), (0x85, 0x2026), (0x86, 0x2020), (0x87, 0x2021), (0x88, 0x2c6), (0x89, 0x2030),
  (0x8a, 0x160), (0x8b, 0x2039), (0x8c, 0x152), (0x8d, 0x8d), (0x8e, 0x17d), (0x8f, 0x8f),
  (0x90, 0x90), (0x91, 0x2018), (0x92, 0x2019), (0x93, 0x201c), (0x94, 0x201d), (0x95, 0x2022),
  (0x96, 0x2013), (0x97, 0x2014), (0x98, 0x2dc), (0x99, 0x2122), (0x9a, 0x161), (0x9b, 0x203a),
  (0x9c, 0x153), (0x9d, 0x9d), (0x9e, 0x17e), (0x9f, 0x178)]

/-- Whether a number stands for nothing: controls, and what is no character. -/
def isVoid (n : Nat) : Bool :=
  (0x1 ≤ n && n ≤ 0x8) || n = 0xb || (0xe ≤ n && n ≤ 0x1f) || n = 0x7f ||
    (0xfdd0 ≤ n && n ≤ 0xfdef) || 0xfffe ≤ n % 0x10000

def numbered (n : Nat) : List Char :=
  match renumbered.lookup n with
  | some code => [Char.ofNat code]
  | none =>
    if (0xd800 ≤ n && n < 0xe000) || 0x10ffff < n then ['\ufffd']
    else if isVoid n then []
    else [Char.ofNat n]

def isCharacterNameChar (c : Char) : Bool :=
  c ≠ '\t' && c ≠ '\n' && c ≠ '\x0c' && c ≠ ' ' && c ≠ '<' && c ≠ '&' && c ≠ '#' && c ≠ ';'

/-- What stands between an ampersand and a semicolon, as far as it has the form of a reference, and
the text behind. -/
def referenceBody? (s : List Char) : Option (List Char × List Char) :=
  let ended (start : List Char) (belongs : Char → Bool) (limit : Nat) (s : List Char) :
      Option (List Char × List Char) :=
    let body := s.takeWhile belongs
    match s.drop body.length with
    | ';' :: rest =>
      if body.isEmpty || limit < body.length then none else some (start ++ body, rest)
    | _ => none
  match s with
  | '#' :: 'x' :: digits => ended ['#', 'x'] Text.isHexDigit digits.length digits
  | '#' :: 'X' :: digits => ended ['#', 'x'] Text.isHexDigit digits.length digits
  | '#' :: digits => ended ['#'] Char.isDigit 7 digits
  | s => ended [] isCharacterNameChar 32 s

/-- Names that may be followed by more letters. -/
def openNames : List (List Char) := openNameText.flatMap fun line => Text.splitAt ' ' line.toList

/-- What a longer name stands for: the character of the longest open name within its first letters,
and the letters that are left. -/
def openReferenced? (name : List Char) : (length : Nat) → Option (List Char)
  | 0 => none
  | length + 1 =>
    let start := name.take (length + 1)
    if openNames.contains start then
      (characterNames.lookup start).map (· ++ name.drop (length + 1) ++ [';'])
    else openReferenced? name length

def referenced? : List Char → Option (List Char)
  | '#' :: 'x' :: digits => some (numbered (natOfHex digits))
  | '#' :: digits => some (numbered (Text.natOfDigits digits))
  | name => characterNames.lookup name <|> openReferenced? name name.length

/-- A text with its references resolved, of which no more than `fuel` characters are looked at. -/
def resolveReferences : (fuel : Nat) → List Char → List Char
  | fuel + 1, '&' :: rest =>
    match referenceBody? rest with
    | some (body, behind) =>
      match referenced? body with
      | some s => s ++ resolveReferences fuel behind
      | none => '&' :: resolveReferences fuel rest
    | none => '&' :: resolveReferences fuel rest
  | fuel + 1, c :: rest => c :: resolveReferences fuel rest
  | _, s => s

/-! ### Addresses -/

/-- Characters that an address holds as they are. -/
def isAddressChar (c : Char) : Bool :=
  c.isAlphanum || "_.-~:/?#@!$&()*+,;=%".toList.contains c

/-- A character as an address holds it. -/
def encodeAddressChar (c : Char) : List Char :=
  if isAddressChar c then [c]
  else (Encoding.encodeUtf8Char c).flatMap fun b => '%' :: (Text.hex 2 b.toNat).map Char.toUpper

def address (destination : List Char) : String :=
  String.ofList ((resolveReferences destination.length destination).flatMap encodeAddressChar)

end RichText.Markdown
