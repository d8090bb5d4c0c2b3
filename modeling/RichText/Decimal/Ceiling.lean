import RichText.Decimal.Binary

/-!
Rounding up to a whole number.
-/
namespace RichText.Decimal

/-- Why a double has no whole number above it. -/
inductive Unbounded
  | notANumber
  | infinite
deriving DecidableEq

/-- The least whole number that is not below `mantissa * 2 ^ exponent`. -/
def ceilingNat (mantissa : Nat) (exponent : Int) : Nat :=
  let unit := Nat.pow 2 (-exponent).toNat
  (mantissa * Nat.pow 2 exponent.toNat + (unit - 1)) / unit

/-- The greatest whole number that is not above `mantissa * 2 ^ exponent`. -/
def floorNat (mantissa : Nat) (exponent : Int) : Nat :=
  mantissa * Nat.pow 2 exponent.toNat / Nat.pow 2 (-exponent).toNat

def ceiling (x : Float) : Except Unbounded Int :=
  match read x with
  | .finite false m q => .ok (ceilingNat m q)
  | .finite true m q => .ok (-(floorNat m q))
  | .infinite _ => .error .infinite
  | .notANumber => .error .notANumber

end RichText.Decimal
