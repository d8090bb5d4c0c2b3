import RichText.Decimal.Shortest

/-!
How a number of points is written: the shortest digits that read back, always with a point or an
exponent.
-/
namespace RichText.Decimal

/-- Which decimal exponents are written out as places, and how wide the others are. -/
structure Style where
  leastPositional : Int
  firstExponential : Int
  exponentDigits : Nat

/-- Four zeros after the point are written out and sixteen digits before it; an exponent has a sign
and two digits. -/
def Style.points : Style := ⟨-4, 16, 2⟩

def paddedDigits (width n : Nat) : List Char :=
  let digits := Nat.toDigits 10 n
  List.replicate (width - digits.length) '0' ++ digits

/-- Digits with the point after the first `before` of them. -/
def positional (digits : List Char) (before : Int) : List Char :=
  if before ≤ 0 then '0' :: '.' :: List.replicate (-before).toNat '0' ++ digits
  else if digits.length ≤ before.toNat then
    digits ++ List.replicate (before.toNat - digits.length) '0' ++ ['.', '0']
  else digits.take before.toNat ++ '.' :: digits.drop before.toNat

/-- Digits with the point after the first of them, and the exponent that makes up for it. -/
def exponential (style : Style) (digits : List Char) (exponent : Int) : List Char :=
  let mark := ['e', if exponent < 0 then '-' else '+']
  let power := mark ++ paddedDigits style.exponentDigits exponent.natAbs
  match digits with
  | [] => power
  | [d] => d :: power
  | d :: rest => d :: '.' :: rest ++ power

def Digits.text (style : Style) (d : Digits) : List Char :=
  let digits := Nat.toDigits 10 d.coefficient
  let before := digits.length + d.exponent
  if d.coefficient = 0 then ['0', '.', '0']
  else if style.leastPositional ≤ before - 1 && before - 1 < style.firstExponential then
    positional digits before
  else exponential style digits (before - 1)

def Reading.text (style : Style) : Reading → List Char
  | .finite negative m q =>
    (if negative then ['-'] else []) ++ (shortest m q).text style
  | .infinite negative => (if negative then ['-'] else []) ++ ['i', 'n', 'f']
  | .notANumber => ['n', 'a', 'n']

def text (x : Float) : String :=
  String.ofList ((read x).text .points)

end RichText.Decimal
