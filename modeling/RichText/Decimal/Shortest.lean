import RichText.Decimal.Binary

/-!
The shortest decimal that reads back as a given double, and of the shortest ones the nearest.
-/
namespace RichText.Decimal

/-- The decimal `coefficient * 10 ^ exponent`. -/
structure Digits where
  coefficient : Nat
  exponent : Int
deriving DecidableEq

/-- A positive double with the reals that round to it, in one unit: the double is `value * 2 ^ unit`
and the reals reach from `low * 2 ^ unit` to `high * 2 ^ unit`, ends included if `closed`. -/
structure Rounding where
  value : Nat
  low : Nat
  high : Nat
  unit : Int
  closed : Bool
deriving DecidableEq

/-- Half a step to each side; below a power of two the steps are half as wide. -/
def Rounding.of (mantissa : Nat) (exponent : Int) : Rounding where
  value := 4 * mantissa
  low :=
    if mantissa = Nat.pow 2 52 && -1074 < exponent then 4 * mantissa - 1 else 4 * mantissa - 2
  high := 4 * mantissa + 2
  unit := exponent - 2
  closed := mantissa % 2 = 0

/-- How many units of `2 ^ unit` a grid of step `10 ^ step` has in one line, as a fraction. -/
def scale (unit step : Int) : Nat × Nat :=
  (Nat.pow 2 (-unit).toNat * Nat.pow 10 step.toNat,
    Nat.pow 2 unit.toNat * Nat.pow 10 (-step).toNat)

/-- Whether `d * 10 ^ step` rounds to the double. -/
def Rounding.holds (r : Rounding) (step : Int) (d : Nat) : Bool :=
  let (lines, units) := scale r.unit step
  let below := compare (r.low * units) (d * lines)
  let above := compare (d * lines) (r.high * units)
  (below.isLT || r.closed && below.isEq) && (above.isLT || r.closed && above.isEq)

/-- The neighbour of the double on the grid of step `10 ^ step` that rounds to it, if one does: the
nearer of two, and of two equally near the even one. -/
def Rounding.onGrid? (r : Rounding) (step : Int) : Option Nat :=
  let (lines, units) := scale r.unit step
  let down := r.value * units / lines
  let remainder := r.value * units % lines
  match 0 < down && r.holds step down, r.holds step (down + 1) with
  | true, true =>
    match compare (2 * remainder) lines with
    | .lt => some down
    | .gt => some (down + 1)
    | .eq => some (if down % 2 = 0 then down else down + 1)
  | true, false => some down
  | false, true => some (down + 1)
  | false, false => none

/-- The least `e` from `guess` on with the double below `10 ^ e`, looked for `tries` times. -/
def Rounding.magnitude (r : Rounding) : (tries : Nat) → (guess : Int) → Int
  | 0, guess => guess
  | tries + 1, guess =>
    let (lines, units) := scale r.unit guess
    if r.value * units < lines then guess else r.magnitude tries (guess + 1)

/-- The hit on the grid with `n` digits before the power of ten `size`; the power itself has one. -/
def Rounding.withDigits? (r : Rounding) (size : Int) (n : Nat) : Option Digits :=
  (r.onGrid? (size - n)).map fun d => if d = Nat.pow 10 n then ⟨1, size⟩ else ⟨d, size - n⟩

/-- Seventeen digits always suffice. -/
def Rounding.shortest (r : Rounding) : Digits :=
  let log2 := (Nat.log2 r.value : Int) + r.unit
  let size := r.magnitude 4 (log2 * 1233 / 4096 - 1)
  ((List.range 17).findSome? fun n => r.withDigits? size (n + 1)).getD ⟨r.value, 0⟩

/-- The shortest decimal that reads back as `mantissa * 2 ^ exponent`. -/
def shortest (mantissa : Nat) (exponent : Int) : Digits :=
  if mantissa = 0 then ⟨0, 0⟩ else (Rounding.of mantissa exponent).shortest

end RichText.Decimal
