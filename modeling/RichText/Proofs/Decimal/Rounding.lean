import Mathlib.Algebra.Field.Rat
import Mathlib.Algebra.Order.Field.Power
import Mathlib.Algebra.Order.Ring.Rat
import Mathlib.Algebra.Ring.Parity
import Mathlib.Tactic.Linarith
import Mathlib.Tactic.Positivity
import Mathlib.Tactic.Ring
import RichText.Proofs.Decimal.Unpacked

/-! # Rounding of doubles

Rounding keeps 53 bits of a number and takes the nearest whole number of them, the even one if two
are as near. It never puts a smaller number above a larger one. -/

namespace RichText.Decimal

open Float.Model
open Float.Model.UnpackedFloat (Accuracy ExtendedMantissa Sign roundWithAccuracy
  shiftToTargetExponent)

/-! ## Nearest whole numbers -/

/-- A whole number that is as near to `x` as any, and even if another one is as near. -/
structure IsNearest (x : ℚ) (n : ℕ) : Prop where
  near : |x - n| ≤ 1 / 2
  even : |x - n| = 1 / 2 → Even n

theorem isNearest_natCast (n : ℕ) : IsNearest n n := by
  constructor <;> simp

theorem IsNearest.mono {x y : ℚ} {m n : ℕ} (hm : IsNearest x m) (hn : IsNearest y n)
    (h : x ≤ y) : m ≤ n := by
  by_contra hlt
  have hstep : (n : ℚ) + 1 ≤ m := by exact_mod_cast Nat.not_le.mp hlt
  have hx := abs_le.mp hm.near
  have hy := abs_le.mp hn.near
  -- Both numbers lie half way between `n` and `m`, but only one of these is even.
  have hbelow : x - m = -(1 / 2) := by linarith
  have habove : y - n = 1 / 2 := by linarith
  have hsucc : m = n + 1 := by
    have : (m : ℚ) = n + 1 := by linarith
    exact_mod_cast this
  have hodd : Even m := hm.even (by rw [hbelow]; norm_num)
  have heven : Even n := hn.even (by rw [habove]; norm_num)
  rw [hsucc] at hodd
  exact Nat.even_add_one.mp hodd heven

/-! ## Shifted mantissas -/

/-- A mantissa with the bit behind it, as a whole number of halves. -/
def halves (em : ExtendedMantissa) : ℕ := 2 * em.mantissa + em.roundBit.toNat

/-- What a mantissa and the two bits behind it say of a number: the second bit is set if the number
lies between two halves. -/
def Represents (x : ℚ) (em : ExtendedMantissa) : Prop :=
  if em.stickyBit then halves em < 2 * x ∧ 2 * x < halves em + 1 else 2 * x = halves em

variable {x : ℚ} {em : ExtendedMantissa}

theorem Represents.isNearest (h : Represents x em) : IsNearest x em.roundedMantissa := by
  obtain ⟨m, round, sticky⟩ := em
  cases round <;> cases sticky <;>
    simp only [Represents, halves, ExtendedMantissa.roundedMantissa, ExtendedMantissa.accuracy,
      Accuracy.roundToNearestEven, Bool.toNat_false, Bool.toNat_true, if_true, Bool.false_eq_true,
      if_false] at h ⊢ <;> push_cast at h
  case false.false =>
    obtain rfl : x = m := by linarith
    exact isNearest_natCast m
  case false.true =>
    have habs : |x - m| < 1 / 2 := abs_lt.mpr ⟨by linarith, by linarith⟩
    exact ⟨habs.le, fun heq => absurd heq habs.ne⟩
  case true.false =>
    obtain rfl : x = m + 1 / 2 := by linarith
    rcases Nat.mod_two_eq_zero_or_one m with hm | hm <;> rw [hm]
    · refine ⟨by norm_num, fun _ => ?_⟩
      exact Nat.even_iff.mpr hm
    · refine ⟨by push_cast; norm_num, fun _ => ?_⟩
      exact Nat.even_add_one.mpr (Nat.not_even_iff.mpr hm)
  case true.true =>
    have habs : |x - (m + 1 : ℕ)| < 1 / 2 := by
      push_cast
      exact abs_lt.mpr ⟨by linarith, by linarith⟩
    exact ⟨habs.le, fun heq => absurd heq habs.ne⟩

theorem halves_shiftRightOne (em : ExtendedMantissa) : halves em.shiftRightOne = em.mantissa := by
  have hbit : (em.mantissa % 2 != 0).toNat = em.mantissa % 2 := by
    rcases Nat.mod_two_eq_zero_or_one em.mantissa with hm | hm <;> rw [hm] <;> rfl
  change 2 * (em.mantissa / 2) + (em.mantissa % 2 != 0).toNat = em.mantissa
  rw [hbit, Nat.div_add_mod]

theorem Represents.shiftRightOne (h : Represents x em) : Represents (x / 2) em.shiftRightOne := by
  rw [Represents, halves_shiftRightOne]
  obtain ⟨m, round, sticky⟩ := em
  cases round <;> cases sticky <;>
    simp only [Represents, halves, ExtendedMantissa.shiftRightOne, Bool.toNat_false,
      Bool.toNat_true, Bool.or_false, Bool.or_true, if_true, Bool.false_eq_true, if_false] at h ⊢ <;>
    push_cast at h
  case false.false => linarith
  all_goals constructor <;> linarith

theorem Represents.shiftRight (h : Represents x em) (n : ℕ) :
    Represents (x / 2 ^ n) (em >>> n) := by
  change Represents _ (n.repeat ExtendedMantissa.shiftRightOne em)
  induction n with
  | zero =>
      rw [pow_zero, div_one]
      exact h
  | succ n ih =>
      rw [pow_succ, ← div_div]
      exact ih.shiftRightOne

theorem represents_ofMantissa (m : ℕ) :
    Represents m (ExtendedMantissa.ofMantissaAndAccuracy m .exact) := by
  simp [Represents, halves, ExtendedMantissa.ofMantissaAndAccuracy]

/-! ## Rounded numbers -/

/-- The exponent that a number is rounded to leaves 53 bits of it, or fewer if it is the least
exponent there is. -/
structure FitsExponent (v : ℚ) (t : ℤ) : Prop where
  le : -1074 ≤ t
  lt : v < 2 ^ (t + 53)
  full : t = -1074 ∨ 2 ^ (t + 52) ≤ v

theorem FitsExponent.mono {v w : ℚ} {t u : ℤ} (hv : FitsExponent v t) (hw : FitsExponent w u)
    (h : v ≤ w) : t ≤ u := by
  by_contra hlt
  rcases hv.full with hleast | hfull
  · have := hw.le
    omega
  · have hpow : (2 : ℚ) ^ (u + 53) ≤ 2 ^ (t + 52) := zpow_le_zpow_right₀ (by norm_num) (by omega)
    have hlast := hw.lt
    linarith

section Nearest

variable {v : ℚ} {t : ℤ} {n : ℕ}

theorem FitsExponent.nearest_le (h : FitsExponent v t) (hn : IsNearest (v / 2 ^ t) n) :
    n ≤ 2 ^ 53 := by
  refine hn.mono (isNearest_natCast _) ?_
  rw [div_le_iff₀ (by positivity), Nat.cast_pow, Nat.cast_ofNat]
  have hlt := h.lt
  rw [zpow_add₀ (by norm_num), mul_comm] at hlt
  exact hlt.le

theorem FitsExponent.le_nearest (h : FitsExponent v t) (hn : IsNearest (v / 2 ^ t) n) :
    t = -1074 ∨ 2 ^ 52 ≤ n := by
  refine h.full.imp_right fun hfull => (isNearest_natCast _).mono hn ?_
  rw [le_div_iff₀ (by positivity), Nat.cast_pow, Nat.cast_ofNat]
  rw [zpow_add₀ (by norm_num), mul_comm] at hfull
  exact hfull

end Nearest

/-- A number that is not negative and what it is rounded to. -/
def IsRounded (v r : ℚ) : Prop :=
  ∃ (n : ℕ) (t : ℤ), FitsExponent v t ∧ IsNearest (v / 2 ^ t) n ∧ r = n * 2 ^ t

/-- Rounding is monotone. Where the exponents differ a power of two lies in between. -/
theorem IsRounded.mono {v w r q : ℚ} (hv : IsRounded v r) (hw : IsRounded w q) (h : v ≤ w) :
    r ≤ q := by
  obtain ⟨m, t, hvt, hm, rfl⟩ := hv
  obtain ⟨n, u, hwu, hn, rfl⟩ := hw
  have hpos : (0 : ℚ) < 2 ^ t := by positivity
  rcases (hvt.mono hwu h).eq_or_lt with rfl | hlt
  · have hle : (m : ℚ) ≤ n := by
      exact_mod_cast hm.mono hn (div_le_div_of_nonneg_right h hpos.le)
    exact mul_le_mul_of_nonneg_right hle hpos.le
  · have hleast := hvt.le
    have hmbound := hvt.nearest_le hm
    have hnbound := (hwu.le_nearest hn).resolve_left (by omega)
    calc (m : ℚ) * 2 ^ t ≤ (2 ^ 53 : ℕ) * 2 ^ t :=
          mul_le_mul_of_nonneg_right (by exact_mod_cast hmbound) hpos.le
      _ = 2 ^ 52 * 2 ^ (t + 1) := by
          rw [zpow_add₀ (by norm_num)]
          push_cast
          ring
      _ ≤ n * 2 ^ u := by
          refine mul_le_mul (by exact_mod_cast hnbound) ?_ (by positivity) (by positivity)
          exact zpow_le_zpow_right₀ (by norm_num) (by omega)

/-! ## Rounding of unpacked doubles -/

/-- An unpacked number with its sign and, the sign aside, its value, in the form that packing
expects. -/
inductive Denotes (s : Sign) : ℚ → UnpackedFloat → Prop
  | zero : Denotes s 0 (.zero s)
  | finite {m : ℕ} {e : ℤ} (hm : 0 < m) (hfits : Fits m e) : Denotes s (m * 2 ^ e) (.finite s m e hm)

section Rounding

variable {s : Sign} {m : ℕ} {e : ℤ}

/-- The exponent that a number is shifted to. -/
def targetExponent (m : ℕ) (e : ℤ) : ℤ := max (m.log2 + 1 + e - 53) (-1074)

theorem fitsExponent_targetExponent (hm : 0 < m) (e : ℤ) :
    FitsExponent (m * 2 ^ e) (targetExponent m e) := by
  have hlower : (2 : ℚ) ^ (m.log2 : ℤ) ≤ m := by
    rw [zpow_natCast]
    exact_mod_cast Nat.log2_self_le hm.ne'
  have hupper : (m : ℚ) < 2 ^ ((m.log2 : ℤ) + 1) := by
    rw [← Nat.cast_succ, zpow_natCast]
    exact_mod_cast Nat.lt_log2_self
  have hpos : (0 : ℚ) < 2 ^ e := by positivity
  refine ⟨le_max_right _ _, ?_, ?_⟩
  · calc (m : ℚ) * 2 ^ e < 2 ^ ((m.log2 : ℤ) + 1) * 2 ^ e := mul_lt_mul_of_pos_right hupper hpos
      _ = 2 ^ ((m.log2 : ℤ) + 1 + e) := (zpow_add₀ (by norm_num) _ _).symm
      _ ≤ 2 ^ (targetExponent m e + 53) := by
          refine zpow_le_zpow_right₀ (by norm_num) ?_
          unfold targetExponent
          omega
  · by_cases hleast : targetExponent m e = -1074
    · exact .inl hleast
    · right
      have htarget : targetExponent m e + 52 = m.log2 + e := by
        unfold targetExponent at hleast ⊢
        omega
      rw [htarget, zpow_add₀ (by norm_num)]
      exact mul_le_mul_of_nonneg_right hlower hpos.le

/-- Shifting to the right leaves the number where it is. -/
theorem represents_shiftToTargetExponent (he : e ≤ targetExponent m e) :
    Represents (m * 2 ^ e / 2 ^ targetExponent m e)
        (shiftToTargetExponent Format.binary64 m e .exact).1 ∧
      (shiftToTargetExponent Format.binary64 m e .exact).2 = targetExponent m e := by
  have hshift : ((targetExponent m e - e).toNat : ℤ) = targetExponent m e - e :=
    Int.toNat_of_nonneg (by omega)
  refine ⟨?_, ?_⟩
  · have hpow : (m : ℚ) * 2 ^ e / 2 ^ targetExponent m e =
        m / 2 ^ (targetExponent m e - e).toNat := by
      rw [← zpow_natCast, hshift, mul_div_assoc, ← zpow_sub₀ (by norm_num), div_eq_mul_inv,
        ← zpow_neg, neg_sub]
    rw [hpow]
    exact (represents_ofMantissa m).shiftRight _
  · change e + ((targetExponent m e - e).toNat : ℤ) = _
    omega

/-- A mantissa that is not too long is not shifted any more. -/
theorem shiftToTargetExponent_of_lt (hm : m < 2 ^ 53) (he : -1074 ≤ e) :
    shiftToTargetExponent Format.binary64 m e .exact = (⟨m, false, false⟩, e) := by
  have hlog : m.log2 ≤ 52 := by
    by_cases hzero : m = 0
    · rw [hzero]
      exact Nat.zero_le _
    · have hlt := (Nat.log2_lt hzero).mpr hm
      omega
  have hshift : (targetExponent m e - e).toNat = 0 := by
    unfold targetExponent
    omega
  change ((⟨m, false, false⟩ : ExtendedMantissa) >>> (targetExponent m e - e).toNat,
    e + ((targetExponent m e - e).toNat : ℤ)) = _
  rw [hshift, Int.natCast_zero, Int.add_zero]
  rfl

/-- A mantissa that has become too long by rounding is halved. -/
theorem shiftToTargetExponent_of_eq (he : -1074 ≤ e) :
    shiftToTargetExponent Format.binary64 (2 ^ 53) e .exact = (⟨2 ^ 52, false, false⟩, e + 1) := by
  have hshift : (targetExponent (2 ^ 53) e - e).toNat = 1 := by
    unfold targetExponent
    rw [Nat.log2_two_pow]
    omega
  change ((⟨2 ^ 53, false, false⟩ : ExtendedMantissa) >>> (targetExponent (2 ^ 53) e - e).toNat,
    e + ((targetExponent (2 ^ 53) e - e).toNat : ℤ)) = _
  rw [hshift]
  rfl

/-- A number is rounded once; the second shift is exact. -/
theorem exists_denotes_roundWithAccuracy (s : Sign) (hm : 0 < m) (he : e ≤ targetExponent m e) :
    ∃ r, IsRounded (m * 2 ^ e) r ∧
      Denotes s r (roundWithAccuracy Format.binary64 s m e .exact) := by
  obtain ⟨hrepresents, hexponent⟩ := represents_shiftToTargetExponent he
  have hfits := fitsExponent_targetExponent hm e
  unfold roundWithAccuracy
  generalize shiftToTargetExponent Format.binary64 m e .exact = first at hrepresents hexponent
  obtain ⟨em, t⟩ := first
  dsimp only at hrepresents hexponent ⊢
  subst hexponent
  generalize targetExponent m e = t at hrepresents hfits
  have hnearest := hrepresents.isNearest
  generalize em.roundedMantissa = n at hnearest
  have hfull := hfits.le_nearest hnearest
  refine ⟨n * 2 ^ t, ⟨n, t, hfits, hnearest, rfl⟩, ?_⟩
  rcases (hfits.nearest_le hnearest).lt_or_eq with hlt | rfl
  · rw [shiftToTargetExponent_of_lt hlt hfits.le]
    by_cases hzero : n = 0
    · rw [dif_pos hzero, hzero, Nat.cast_zero, zero_mul]
      exact .zero
    · rw [dif_neg hzero]
      exact .finite _ ⟨hlt, hfits.le, hfull⟩
  · have hhalf : ((2 ^ 53 : ℕ) : ℚ) * 2 ^ t = (2 ^ 52 : ℕ) * 2 ^ (t + 1) := by
      rw [zpow_add₀ (by norm_num)]
      push_cast
      ring
    rw [shiftToTargetExponent_of_eq hfits.le, dif_neg (show ¬ 2 ^ 52 = 0 by decide), hhalf]
    have hleast := hfits.le
    exact .finite _ ⟨by decide, by omega, .inr (by decide)⟩

end Rounding

end RichText.Decimal
