import Mathlib.Algebra.Group.Nat.Defs
import Mathlib.Tactic.ByContra

/-! # Packing and unpacking of doubles

What unpacking gives is said once, field by field. From it comes which unpacked doubles are packed
without loss: those with as many bits in their mantissa as their exponent calls for. -/

namespace RichText.Decimal

open Float.Model
open Float.Model.UnpackedFloat (Sign packComponents unpackExponent unpackMantissa unpackSign)

/-- The biased exponent in the bits of a double. -/
def exponentBits (b : BitVec 64) : Nat := (@unpackExponent Format.binary64 b).toNat

def fractionBits (b : BitVec 64) : Nat := (@unpackMantissa Format.binary64 b).toNat

def signOf (b : BitVec 64) : Sign := .ofBitVec (@unpackSign Format.binary64 b)

/-- How the bits of a double are unpacked. -/
inductive Unpacks (b : BitVec 64) : UnpackedFloat → Prop
  | infinity (he : exponentBits b = 2047) (hm : fractionBits b = 0) : Unpacks b (.infinity (signOf b))
  | notANumber (he : exponentBits b = 2047) (hm : fractionBits b ≠ 0) : Unpacks b .notANumber
  | zero (he : exponentBits b = 0) (hm : fractionBits b = 0) : Unpacks b (.zero (signOf b))
  | subnormal (he : exponentBits b = 0) (hm : 0 < fractionBits b) :
      Unpacks b (.finite (signOf b) (fractionBits b) (-1074) hm)
  | normal {m : Nat} (he : exponentBits b ≠ 0) (hlt : exponentBits b < 2047)
      (heq : m = 2 ^ 52 + fractionBits b) (hm : 0 < m) :
      Unpacks b (.finite (signOf b) m (exponentBits b - 1075) hm)

theorem exponentBits_lt (b : BitVec 64) : exponentBits b < 2 ^ 11 :=
  (@unpackExponent Format.binary64 b).isLt

theorem fractionBits_lt (b : BitVec 64) : fractionBits b < 2 ^ 52 :=
  (@unpackMantissa Format.binary64 b).isLt

theorem toNat_one_append (m : BitVec 52) : (1#1 ++ m).toNat = 2 ^ 52 + m.toNat := by
  rw [BitVec.toNat_append, Nat.or_comm, Nat.shiftLeft_eq]
  change m.toNat ||| 1 * 2 ^ 52 = _
  rw [Nat.one_mul, Nat.or_two_pow_eq_add_of_lt m.isLt, Nat.add_comm]

theorem unpacks_unpack (b : BitVec 64) : Unpacks b (UnpackedFloat.unpack Format.binary64 b) := by
  have hones : @unpackExponent Format.binary64 b = -1#11 ↔ exponentBits b = 2047 :=
    BitVec.toNat_inj.symm
  have hzeroExponent : @unpackExponent Format.binary64 b = 0#11 ↔ exponentBits b = 0 :=
    BitVec.toNat_inj.symm
  have hzeroFraction : @unpackMantissa Format.binary64 b = 0#52 ↔ fractionBits b = 0 :=
    BitVec.toNat_inj.symm
  have hlt := exponentBits_lt b
  delta UnpackedFloat.unpack
  dsimp only
  by_cases he : @unpackExponent Format.binary64 b = -1#11
  · rw [if_pos he]
    by_cases hm : @unpackMantissa Format.binary64 b = 0#52
    · rw [if_pos hm]
      exact .infinity (hones.mp he) (hzeroFraction.mp hm)
    · rw [if_neg hm]
      exact .notANumber (hones.mp he) (mt hzeroFraction.mpr hm)
  · rw [if_neg he]
    by_cases hz : @unpackExponent Format.binary64 b = 0#11
    · rw [if_pos hz]
      by_cases hm : @unpackMantissa Format.binary64 b = 0#52
      · rw [dif_pos hm]
        exact .zero (hzeroExponent.mp hz) (hzeroFraction.mp hm)
      · rw [dif_neg hm, hz]
        exact .subnormal (hzeroExponent.mp hz) (Nat.pos_of_ne_zero (mt hzeroFraction.mpr hm))
    · rw [if_neg hz]
      have hnot := mt hones.mpr he
      exact .normal (mt hzeroExponent.mpr hz) (by omega) (toNat_one_append _) _

/-- A mantissa has as many bits as its exponent calls for: 53, or fewer with the least exponent. -/
structure Fits (m : Nat) (e : Int) : Prop where
  lt : m < 2 ^ 53
  le : -1074 ≤ e
  full : e = -1074 ∨ 2 ^ 52 ≤ m

variable {s : Sign} {m : Nat} {e : Int} {hm : 0 < m}

theorem fits_of_unpack {b : BitVec 64}
    (h : UnpackedFloat.unpack Format.binary64 b = .finite s m e hm) : Fits m e ∧ e ≤ 971 := by
  have hb := unpacks_unpack b
  have hfraction := fractionBits_lt b
  rw [h] at hb
  cases hb with
  | subnormal he => exact ⟨⟨by omega, by decide, .inl rfl⟩, by decide⟩
  | normal he hlt heq => exact ⟨⟨by omega, by omega, .inr (by omega)⟩, by omega⟩

/-! ## Packing -/

section Pack

variable {exponent : BitVec 11} {fraction : BitVec 52}

@[simp] theorem exponentBits_packComponents :
    exponentBits (packComponents Format.binary64 s exponent fraction) = exponent.toNat := by
  unfold exponentBits
  rw [UnpackedFloat.unpackExponent_packComponents]

@[simp] theorem fractionBits_packComponents :
    fractionBits (packComponents Format.binary64 s exponent fraction) = fraction.toNat := by
  unfold fractionBits
  rw [UnpackedFloat.unpackMantissa_packComponents]

@[simp] theorem signOf_packComponents :
    signOf (packComponents Format.binary64 s exponent fraction) = s := by
  change Sign.ofBitVec ((s.toBitVec ++ exponent ++ fraction).extractLsb' 63 1) = s
  rw [BitVec.extractLsb'_append_eq_of_le (by decide), BitVec.extractLsb'_append_eq_of_le (by decide)]
  cases s <;> rfl

end Pack

/-- The bits of a double are unpacked in one way. -/
theorem Unpacks.eq {b : BitVec 64} {u v : UnpackedFloat} (hu : Unpacks b u) (hv : Unpacks b v) :
    u = v := by
  cases hu with
  | infinity | notANumber | zero | subnormal =>
      cases hv <;> first | rfl | omega
  | normal he hlt heq hm =>
      cases hv with
      | normal he' hlt' heq' hm' =>
          subst heq heq'
          rfl
      | _ => omega

@[simp] theorem unpack_pack_infinity (s : Sign) :
    (Float.Model.pack (.infinity s)).unpack = .infinity s := by
  have hunpacks := Unpacks.infinity (b := packComponents Format.binary64 s (-1#11) 0#52)
    exponentBits_packComponents fractionBits_packComponents
  rw [signOf_packComponents] at hunpacks
  exact (unpacks_unpack _).eq hunpacks

@[simp] theorem unpack_pack_zero (s : Sign) :
    (Float.Model.pack (.zero s)).unpack = .zero s := by
  have hunpacks := Unpacks.zero (b := packComponents Format.binary64 s 0#11 0#52)
    exponentBits_packComponents fractionBits_packComponents
  rw [signOf_packComponents] at hunpacks
  exact (unpacks_unpack _).eq hunpacks

/-- An exponent that is too large makes an infinity. -/
theorem unpack_pack_of_lt (h : 971 < e) :
    (Float.Model.pack (.finite s m e hm)).unpack = .infinity s := by
  rw [← unpack_pack_infinity]
  change UnpackedFloat.unpack Format.binary64
    (if 2048 ≤ (e + 1023 + 52).toNat + 1 then _ else _) = _
  rw [if_pos (by omega)]
  rfl

/-- A mantissa and an exponent that fit come out as they were packed. -/
theorem unpack_pack (hfits : Fits m e) (hmax : e ≤ 971) :
    (Float.Model.pack (.finite s m e hm)).unpack = .finite s m e hm := by
  have hlt := hfits.lt
  have hle := hfits.le
  change UnpackedFloat.unpack Format.binary64
    (if 2048 ≤ (e + 1023 + 52).toNat + 1 then _ else if m.log2 + 1 = 53 then
      packComponents Format.binary64 s (BitVec.ofNat 11 (e + 1023 + 52).toNat) (BitVec.ofNat 52 m)
    else packComponents Format.binary64 s 0#11 (BitVec.ofNat 52 m)) = _
  rw [if_neg (by omega)]
  refine (unpacks_unpack _).eq ?_
  by_cases hnormal : 2 ^ 52 ≤ m
  · have hlog : m.log2 = 52 := (Nat.log2_eq_iff (by omega)).mpr ⟨hnormal, hlt⟩
    rw [if_pos (by omega)]
    generalize hb : packComponents Format.binary64 s (BitVec.ofNat 11 (e + 1023 + 52).toNat)
      (BitVec.ofNat 52 m) = b
    have hexponent : exponentBits b = (e + 1075).toNat := by
      rw [← hb, exponentBits_packComponents, BitVec.toNat_ofNat]
      omega
    have hfraction : fractionBits b = m % 2 ^ 52 := by
      rw [← hb, fractionBits_packComponents, BitVec.toNat_ofNat]
    have hsign : signOf b = s := by rw [← hb, signOf_packComponents]
    have hunpacks := Unpacks.normal (b := b) (m := m) (by omega) (by omega) (by omega) hm
    rwa [hsign, show (exponentBits b : Int) - 1075 = e by omega] at hunpacks
  · have hleast : e = -1074 := hfits.full.resolve_right hnormal
    have hlog : m.log2 ≠ 52 := by
      intro h
      exact hnormal ((Nat.log2_eq_iff (by omega)).mp h).1
    rw [if_neg (by omega)]
    generalize hb : packComponents Format.binary64 s 0#11 (BitVec.ofNat 52 m) = b
    have hexponent : exponentBits b = 0 := by rw [← hb, exponentBits_packComponents]; rfl
    have hfraction : fractionBits b = m := by
      rw [← hb, fractionBits_packComponents, BitVec.toNat_ofNat]
      exact Nat.mod_eq_of_lt (by omega)
    have hsign : signOf b = s := by rw [← hb, signOf_packComponents]
    subst hleast hsign hfraction
    exact .subnormal hexponent hm

end RichText.Decimal
