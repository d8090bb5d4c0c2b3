import RichText.Decimal.Ceiling
import RichText.Proofs.Decimal.Unpacked

/-! # Doubles without a ceiling

A double has no whole number above it if and only if it is infinite or no number. The bits of a
double are read here as its definition reads them. -/

namespace RichText.Decimal

open Float.Model
open Float.Model.UnpackedFloat (Sign)

def isNegative : Sign → Bool
  | .negative => true
  | .positive => false

/-- The reading that belongs to an unpacked double. -/
def readingOf : UnpackedFloat → Reading
  | .zero s => .finite (isNegative s) 0 (-1074)
  | .finite s m e _ => .finite (isNegative s) m e
  | .infinity s => .infinite (isNegative s)
  | .notANumber => .notANumber

theorem exponentBits_eq (b : BitVec 64) :
    exponentBits b = b.toNat / Nat.pow 2 52 % Nat.pow 2 11 := by
  change (b.toNat >>> 52) % 2 ^ 11 = _
  rw [Nat.shiftRight_eq_div_pow]

theorem fractionBits_eq (b : BitVec 64) : fractionBits b = b.toNat % Nat.pow 2 52 := rfl

theorem isNegative_signOf (b : BitVec 64) :
    isNegative (signOf b) = decide (Nat.pow 2 63 ≤ b.toNat) := by
  have hbit : (@UnpackedFloat.unpackSign Format.binary64 b).toNat = b.toNat / 2 ^ 63 % 2 := by
    change (b.toNat >>> 63) % 2 = _
    rw [Nat.shiftRight_eq_div_pow]
  have hlt := b.isLt
  change isNegative (if _ then _ else _) = _
  split
  · rename_i hzero
    rw [hzero] at hbit
    change 0 = _ at hbit
    refine (decide_eq_false ?_).symm
    change ¬ 2 ^ 63 ≤ _
    omega
  · rename_i hone
    have hne : b.toNat / 2 ^ 63 % 2 ≠ 0 := fun h => hone (BitVec.toNat_inj.mp (hbit.trans h))
    refine (decide_eq_true ?_).symm
    change 2 ^ 63 ≤ _
    omega

/-- A double is read as what it is unpacked to. -/
theorem read_eq (x : Float) : read x = readingOf x.toModel.unpack := by
  have hunpacks := unpacks_unpack x.toBits.toBitVec
  change Reading.ofBits x.toBits.toBitVec.toNat =
    readingOf (UnpackedFloat.unpack Format.binary64 x.toBits.toBitVec)
  generalize x.toBits.toBitVec = b at hunpacks
  generalize UnpackedFloat.unpack Format.binary64 b = u at hunpacks
  simp only [Reading.ofBits, ← exponentBits_eq, ← fractionBits_eq, ← isNegative_signOf]
  cases hunpacks with
  | infinity he hm => exact (if_pos he).trans (if_pos hm)
  | notANumber he hm => exact (if_pos he).trans (if_neg hm)
  | zero he hm =>
      rw [if_neg (by omega), if_pos he, hm]
      rfl
  | subnormal he hm =>
      rw [if_neg (by omega), if_pos he]
      rfl
  | normal he hlt heq hm =>
      subst heq
      rw [if_neg (by omega), if_neg he]
      rfl

/-- The least whole number above a double fails to be there in two ways only. -/
theorem ceiling_eq (x : Float) :
    (x.isNaN = true ∧ ceiling x = .error .notANumber) ∨
      (x.isNaN = false ∧ x.isInf = true ∧ ceiling x = .error .infinite) ∨
        (x.isNaN = false ∧ x.isInf = false ∧ ∃ width, ceiling x = .ok width) := by
  have hnan : x.isNaN = x.toModel.unpack.isNaN := rfl
  have hinf : x.isInf = x.toModel.unpack.isInf := rfl
  unfold ceiling
  rw [hnan, hinf, read_eq]
  cases x.toModel.unpack with
  | notANumber => exact .inl ⟨rfl, rfl⟩
  | infinity s => exact .inr (.inl ⟨rfl, rfl, rfl⟩)
  | zero s | finite s =>
      refine .inr (.inr ⟨rfl, rfl, ?_⟩)
      cases s <;> exact ⟨_, rfl⟩

end RichText.Decimal
