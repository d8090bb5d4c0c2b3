import Mathlib.Algebra.Group.Nat.Defs
import Mathlib.Tactic.ByContra
import RichText.Proofs.Decimal.Unpacked

/-! # Doubles that do not overflow

How large a product of doubles may be is found from the exponents of its factors alone. The bounds
are rough: a factor counts for all 53 bits of its mantissa, and so does each rounding. -/

namespace RichText.Decimal

open Float.Model
open Float.Model.UnpackedFloat (Accuracy ExtendedMantissa Sign packComponents roundWithAccuracy
  shiftToTargetExponent)

/-- An unpacked double that stands for a number with an exponent of `k` at most. -/
def Bounded (k : Int) : UnpackedFloat → Prop
  | .zero _ => True
  | .finite _ _ e _ => e ≤ k
  | _ => False

instance (k : Int) : (u : UnpackedFloat) → Decidable (Bounded k u)
  | .zero _ => isTrue trivial
  | .finite _ _ e _ => inferInstanceAs (Decidable (e ≤ k))
  | .infinity _ | .notANumber => isFalse id

/-- A double that stands for a number with an exponent of `k` at most. -/
structure Within (k : Int) (x : Float) : Prop where
  bounded : Bounded k x.toModel.unpack

instance (k : Int) (x : Float) : Decidable (Within k x) :=
  decidable_of_iff (Bounded k x.toModel.unpack) ⟨.mk, Within.bounded⟩

variable {j k : Int} {u : UnpackedFloat} {x y : Float}

theorem Bounded.eq_zero_or_finite (h : Bounded k u) :
    (∃ s, u = .zero s) ∨ ∃ s m e hm, u = .finite s m e hm ∧ e ≤ k := by
  cases u with
  | zero s => exact .inl ⟨s, rfl⟩
  | finite s m e hm => exact .inr ⟨s, m, e, hm, rfl, h⟩
  | _ => cases h

theorem Bounded.mono (h : Bounded j u) (hjk : j ≤ k) : Bounded k u := by
  rcases h.eq_zero_or_finite with ⟨s, rfl⟩ | ⟨s, m, e, hm, rfl, he⟩
  · trivial
  · exact Int.le_trans he hjk

theorem Within.mono (h : Within j x) (hjk : j ≤ k) : Within k x := ⟨h.bounded.mono hjk⟩

theorem Within.isFinite (h : Within k x) : x.isFinite = true := by
  change x.toModel.unpack.isFinite = true
  rcases h.bounded.eq_zero_or_finite with ⟨s, hu⟩ | ⟨s, m, e, hm, hu, -⟩ <;> rw [hu] <;> rfl

/-! ## Packing -/

theorem bounded_unpack {b : BitVec 64} (hk : (exponentBits b : Int) ≤ k + 1075)
    (hmin : -1074 ≤ k) (hmax : k ≤ 971) : Bounded k (UnpackedFloat.unpack Format.binary64 b) := by
  have hunpacks := unpacks_unpack b
  generalize UnpackedFloat.unpack Format.binary64 b = u at hunpacks
  cases hunpacks with
  | infinity he | notANumber he => omega
  | zero => trivial
  | subnormal => exact hmin
  | normal => exact Int.sub_right_le_of_le_add hk

/-- Packing keeps a bound that doubles have room for. -/
theorem bounded_unpack_pack (h : Bounded k u) (hmin : -1074 ≤ k) (hmax : k ≤ 971) :
    Bounded k (Float.Model.pack u).unpack := by
  have hpacked : ∀ s (biased : Nat) (m : BitVec 52), (biased : Int) ≤ k + 1075 →
      Bounded k (UnpackedFloat.unpack Format.binary64
        (packComponents Format.binary64 s (BitVec.ofNat 11 biased) m)) := by
    intro s biased m hbiased
    apply bounded_unpack _ hmin hmax
    have hle : biased % 2048 ≤ biased := Nat.mod_le _ _
    rw [exponentBits_packComponents, BitVec.toNat_ofNat]
    change ((biased % 2048 : Nat) : Int) ≤ _
    omega
  rcases h.eq_zero_or_finite with ⟨s, rfl⟩ | ⟨s, m, e, hm, rfl, he⟩
  · exact hpacked s 0 0#52 (by omega)
  · change Bounded k (UnpackedFloat.unpack Format.binary64
      (if 2048 ≤ (e + 1023 + 52).toNat + 1 then _ else _))
    rw [if_neg (by omega)]
    split
    · apply hpacked
      change (((e + 1023 + 52).toNat : Nat) : Int) ≤ _
      omega
    · exact hpacked s 0 _ (by omega)

theorem isFinite_unpack_pack (h : u.isFinite = false) :
    (Float.Model.pack u).unpack.isFinite = false := by
  cases u with
  | infinity s => cases s <;> decide
  | notANumber => decide
  | _ => cases h

/-! ## Rounding -/

section Rounding

variable {m d : Nat}

theorem exponent_shiftToTargetExponent_le (hm : m < 2 ^ (53 + d)) (e : Int) (a : Accuracy) :
    (shiftToTargetExponent Format.binary64 m e a).2 ≤ max (e + d) (-1074) := by
  have hlog : m.log2 ≤ 52 + d := by
    by_cases hzero : m = 0
    · rw [hzero]
      exact Nat.zero_le _
    · have hlt := (Nat.log2_lt hzero).mpr hm
      omega
  change e + ((max ((m.log2 : Int) + 1 + e - 53) (-1074) - e).toNat : Int) ≤ _
  omega

theorem mantissa_shiftRight_le (em : ExtendedMantissa) (n : Nat) :
    (em >>> n).mantissa ≤ em.mantissa := by
  change (Nat.repeat ExtendedMantissa.shiftRightOne n em).mantissa ≤ _
  induction n with
  | zero => exact Nat.le_refl _
  | succ n ih => exact Nat.le_trans (Nat.div_le_self _ 2) ih

theorem mantissa_shiftToTargetExponent_le (m : Nat) (e : Int) (a : Accuracy) :
    (shiftToTargetExponent Format.binary64 m e a).1.mantissa ≤ m := by
  have hstart : (ExtendedMantissa.ofMantissaAndAccuracy m a).mantissa = m := by
    cases a with
    | exact => rfl
    | inexact o => cases o <;> rfl
  exact Nat.le_trans (mantissa_shiftRight_le _ _) (Nat.le_of_eq hstart)

theorem roundedMantissa_le (em : ExtendedMantissa) : em.roundedMantissa ≤ em.mantissa + 1 := by
  obtain ⟨m, round, sticky⟩ := em
  have hparity := Nat.mod_lt m (show 0 < 2 by decide)
  cases round <;> cases sticky <;>
    simp [ExtendedMantissa.roundedMantissa, ExtendedMantissa.accuracy, Accuracy.roundToNearestEven]
  omega

/-- Rounding shifts twice, the second time if the mantissa has become too long. -/
theorem bounded_roundWithAccuracy (hm : m < 2 ^ (53 + d)) (s : Sign) (e : Int) (a : Accuracy) :
    Bounded (max (e + d) (-1074) + d + 1) (roundWithAccuracy Format.binary64 s m e a) := by
  have hshift := exponent_shiftToTargetExponent_le hm e a
  have hmantissa := mantissa_shiftToTargetExponent_le m e a
  unfold roundWithAccuracy
  generalize shiftToTargetExponent Format.binary64 m e a = shifted at hshift hmantissa
  obtain ⟨em, e₁⟩ := shifted
  dsimp only at hshift hmantissa ⊢
  have hrounded : em.roundedMantissa < 2 ^ (53 + (d + 1)) := by
    have hle := roundedMantissa_le em
    rw [← Nat.add_assoc, Nat.pow_succ]
    omega
  have hagain := exponent_shiftToTargetExponent_le hrounded e₁ .exact
  generalize shiftToTargetExponent Format.binary64 em.roundedMantissa e₁ .exact = final at hagain ⊢
  by_cases hzero : final.1.mantissa = 0
  · rw [dif_pos hzero]
    trivial
  · rw [dif_neg hzero]
    change _ ≤ _
    omega

end Rounding

/-! ## Products -/

theorem bounded_mul_finite {s s' : Sign} {m m' d : Nat} {e e' : Int} {hm : 0 < m} {hm' : 0 < m'}
    (hproduct : m * m' < 2 ^ (53 + d)) :
    Bounded (max (e + e' + d) (-1074) + d + 1)
      (UnpackedFloat.mul Format.binary64 (.finite s m e hm) (.finite s' m' e' hm')) :=
  bounded_roundWithAccuracy hproduct _ _ _

/-- The exponents of the factors and 107 more bound the exponent of a product. -/
theorem within_mul (hx : Within j x) (hy : Within k y) (hmin : -1127 ≤ j + k)
    (hmax : j + k ≤ 864) : Within (j + k + 107) (x * y) := by
  refine ⟨bounded_unpack_pack ?_ (by omega) (by omega)⟩
  rcases hx.bounded.eq_zero_or_finite with ⟨s, hu⟩ | ⟨s, m, e, hm, hu, he⟩
  · rcases hy.bounded.eq_zero_or_finite with ⟨s', hv⟩ | ⟨s', m', e', hm', hv, -⟩
    · rw [hu, hv]
      trivial
    · rw [hu, hv]
      trivial
  · rcases hy.bounded.eq_zero_or_finite with ⟨s', hv⟩ | ⟨s', m', e', hm', hv, he'⟩
    · rw [hu, hv]
      trivial
    · have hproduct : m * m' < 2 ^ (53 + 53) := by
        rw [Nat.pow_add]
        exact Nat.mul_lt_mul'' (fits_of_unpack hu).1.lt (fits_of_unpack hv).1.lt
      rw [hu, hv]
      exact (bounded_mul_finite hproduct).mono (by omega)

theorem isFinite_mul_unpacked {v : UnpackedFloat} (h : v.isFinite = false) :
    (UnpackedFloat.mul Format.binary64 u v).isFinite = false := by
  cases v with
  | infinity s => cases u <;> rfl
  | notANumber => cases u <;> rfl
  | _ => cases h

/-- No product with an infinity or with no number is finite. -/
theorem isFinite_mul (x : Float) (h : y.isFinite = false) : (x * y).isFinite = false :=
  isFinite_unpack_pack (isFinite_mul_unpacked h)

/-! ## Whole numbers -/

theorem bounded_round {m : Nat} (hm : m < 2 ^ 53) (s : Sign) :
    Bounded 105 (UnpackedFloat.round Format.binary64 s m 0) := by
  unfold UnpackedFloat.round UnpackedFloat.decreaseExponent
  dsimp only
  have hshift : (0 - Format.binary64.targetExponent (totalExponent m 0)).toNat ≤ 52 := by
    change (0 - max ((m.log2 : Int) + 1 + 0 - 53) (-1074)).toNat ≤ 52
    omega
  generalize (0 - Format.binary64.targetExponent (totalExponent m 0)).toNat = shift at hshift
  have hshifted : m <<< shift < 2 ^ (53 + 52) := by
    rw [Nat.shiftLeft_eq, Nat.pow_add]
    exact Nat.mul_lt_mul_of_lt_of_le hm (Nat.pow_le_pow_right (by decide) hshift) (by decide)
  exact (bounded_roundWithAccuracy hshifted s _ .exact).mono (by omega)

theorem within_toFloat {n : Nat} (hn : n < 2 ^ 53) : Within 105 n.toUInt64.toFloat := by
  have hword : n.toUInt64.toNat = n := UInt64.toNat_ofNat_of_lt' (Nat.lt_trans hn (by decide))
  refine ⟨bounded_unpack_pack ?_ (by decide) (by decide)⟩
  change Bounded 105 (UnpackedFloat.normalize Format.binary64 (n.toUInt64.toNat : Int) 0 .positive)
  rw [hword]
  unfold UnpackedFloat.normalize
  split
  · exact bounded_round (by omega) _
  · trivial
  · exact bounded_round (by omega) _

theorem bounded_ofScientific {n d : Nat} (hn : n < 2 ^ d) :
    Bounded (2 * d + 1) (UnpackedFloat.ofScientific Format.binary64 n 0) := by
  unfold UnpackedFloat.ofScientific
  by_cases hzero : n = 0
  · rw [dif_pos hzero]
    trivial
  · have hsmall : ¬ (0 : Int) < -((2 : Int) ^ Format.binary64.exponentBits + (n.log2 : Int)) := by
      change ¬ (0 : Int) < -(2048 + (n.log2 : Int))
      omega
    have hproduct :
        n <<< Format.binary64.mantissaBits * 10 ^ (0 : Int).toNat < 2 ^ (53 + d) := by
      rw [Nat.shiftLeft_eq, Int.toNat_zero, Nat.pow_zero, Nat.mul_one, Nat.pow_add, Nat.mul_comm]
      exact Nat.mul_lt_mul_of_pos_left hn (Nat.two_pow_pos 53)
    rw [dif_neg hzero, if_neg (by decide), if_neg hsmall, if_pos (by decide)]
    refine (bounded_mul_finite hproduct).mono ?_
    change max (-53 + 0 + (d : Int)) (-1074) + d + 1 ≤ _
    omega

/-- Short numbers are converted by way of machine words, and long ones are scaled. -/
theorem within_ofNat {n : Nat} (hn : n < 2 ^ 75) : Within 160 (Float.ofNat n) := by
  change Within 160 (Float.ofScientific n false 0)
  unfold Float.ofScientific
  split
  · rename_i h
    have hone : Within (-52) (Float.ofBits 0x3FF0000000000000) := by decide
    exact within_mul (within_toFloat h.1) hone (by decide) (by decide)
  · have hscaled := (bounded_ofScientific hn).mono (k := 160) (by decide)
    exact ⟨bounded_unpack_pack hscaled (by decide) (by decide)⟩

/-! ## Comparison -/

/-- A double above zero is bounded by what bounds a larger one. -/
theorem within_of_le (h : x ≤ y) (hpositive : ¬ x ≤ 0) (hy : Within k y) : Within k x := by
  have hle : x.toModel.unpack.le y.toModel.unpack = true :=
    of_decide_eq_true (p := x.toModel ≤ y.toModel) h
  have hnot : ¬ x.toModel.unpack.le (.zero .positive) = true := by
    intro h
    exact hpositive (decide_eq_true (p := x.toModel ≤ (0 : Float).toModel) h)
  unfold UnpackedFloat.le at hle hnot
  constructor
  cases hu : x.toModel.unpack with
  | zero s => trivial
  | notANumber =>
      rw [hu] at hle
      cases hle
  | infinity s =>
      rw [hu] at hle hnot
      cases s with
      | negative => exact (hnot rfl).elim
      | positive =>
          rcases hy.bounded.eq_zero_or_finite with ⟨s', hv⟩ | ⟨s', m', e', hm', hv, -⟩
          · rw [hv] at hle
            cases hle
          · rw [hv] at hle
            cases hle
  | finite s m e hm =>
      rw [hu] at hle hnot
      cases s with
      | negative => exact (hnot rfl).elim
      | positive =>
          rcases hy.bounded.eq_zero_or_finite with ⟨s', hv⟩ | ⟨s', m', e', hm', hv, he'⟩
          · rw [hv] at hle
            cases hle
          · rw [hv] at hle
            cases s' with
            | negative => cases hle
            | positive =>
                change ((compare e e').then (compare m m')).isLE = true at hle
                refine Int.le_trans ?_ he'
                by_contra hlt
                rw [Int.compare_eq_gt.mpr (Int.not_le.mp hlt)] at hle
                cases hle

end RichText.Decimal
