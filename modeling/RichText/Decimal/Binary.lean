/-!
What a double stands for: a whole number times a power of two, an infinity, or no number.
-/
namespace RichText.Decimal

/-- The value of a double, read off its bits. -/
inductive Reading
  /-- The number `mantissa * 2 ^ exponent`, negated if `negative`; zero keeps its sign. -/
  | finite (negative : Bool) (mantissa : Nat) (exponent : Int)
  | infinite (negative : Bool)
  | notANumber
deriving DecidableEq

/-- The sign bit, the biased exponent and the fraction, weighed as IEEE 754 lays down. -/
def Reading.ofBits (bits : Nat) : Reading :=
  let negative : Bool := Nat.pow 2 63 ≤ bits
  let biased : Nat := bits / Nat.pow 2 52 % Nat.pow 2 11
  let fraction := bits % Nat.pow 2 52
  if biased = 0x7ff then
    if fraction = 0 then .infinite negative else .notANumber
  else if biased = 0 then .finite negative fraction (-1074)
  else .finite negative (Nat.pow 2 52 + fraction) (biased - 1075)

def read (x : Float) : Reading :=
  .ofBits x.toBits.toNat

end RichText.Decimal
