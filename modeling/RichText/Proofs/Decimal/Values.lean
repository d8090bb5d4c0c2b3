import Mathlib.Data.Rat.Floor
import RichText.Proofs.Decimal.Ceiling
import RichText.Proofs.Decimal.Rounding

/-! # Values of doubles

Every double but the one that is no number has a value: an infinity counts as the least power of
two that is beyond all doubles, so that packing a rounded number takes the lesser of the two. -/

namespace RichText.Decimal

open Float.Model
open Float.Model.UnpackedFloat (Sign)

/-! ## Values -/

/-- The sign of an unpacked double; what is no number counts as positive. -/
def sign : UnpackedFloat → Sign
  | .zero s | .finite s _ _ _ | .infinity s => s
  | .notANumber => .positive

/-- The least power of two that is beyond all doubles. -/
def overflow : ℚ := 2 ^ (1024 : ℤ)

theorem overflow_pos : 0 < overflow := zpow_pos (by norm_num) _

/-- The value of an unpacked double, the sign aside. -/
def magnitude : UnpackedFloat → ℚ
  | .zero _ | .notANumber => 0
  | .finite _ m e _ => m * 2 ^ e
  | .infinity _ => overflow

/-- A number with a sign put before it. -/
def signed : Sign → ℚ → ℚ
  | .negative, q => -q
  | .positive, q => q

/-- The value of a double. -/
def value (x : Float) : ℚ := signed (sign x.toModel.unpack) (magnitude x.toModel.unpack)

theorem magnitude_nonneg (u : UnpackedFloat) : 0 ≤ magnitude u := by
  cases u with
  | finite => exact mul_nonneg (Nat.cast_nonneg _) (by positivity)
  | infinity => exact overflow_pos.le
  | _ => exact le_rfl

theorem isNumber_iff (x : Float) : x.isNaN = false ↔ x.toModel.unpack ≠ .notANumber := by
  change x.toModel.unpack.isNaN = false ↔ _
  cases x.toModel.unpack with
  | notANumber => exact iff_of_false nofun (not_not_intro rfl)
  | zero => exact iff_of_true rfl nofun
  | finite => exact iff_of_true rfl nofun
  | infinity => exact iff_of_true rfl nofun

theorem isNaN_of_unpack {x : Float} {u : UnpackedFloat} (hx : x.toModel.unpack = u)
    (hu : u ≠ .notANumber) : x.isNaN = false :=
  (isNumber_iff x).mpr (hx ▸ hu)

/-- A double is above zero if and only if its value is. -/
theorem zero_lt_iff (x : Float) : 0 < x ↔ 0 < value x := by
  have hlt : 0 < x ↔ UnpackedFloat.lt (.zero .positive) x.toModel.unpack = true :=
    decide_eq_true_iff (p := (0 : Float).toModel < x.toModel)
  have hneg : ∀ q : ℚ, 0 ≤ q → ¬ 0 < signed .negative q := fun q hq => by
    simpa [signed] using hq
  rw [hlt, value]
  have hnonneg := magnitude_nonneg x.toModel.unpack
  generalize x.toModel.unpack = u at hnonneg
  cases u with
  | notANumber => exact iff_of_false nofun (lt_irrefl 0)
  | zero s =>
      cases s with
      | positive => exact iff_of_false nofun (lt_irrefl 0)
      | negative => exact iff_of_false nofun (hneg _ hnonneg)
  | infinity s =>
      cases s with
      | positive => exact iff_of_true rfl overflow_pos
      | negative => exact iff_of_false nofun (hneg _ hnonneg)
  | finite s m e hm =>
      cases s with
      | positive => exact iff_of_true rfl (mul_pos (Nat.cast_pos.mpr hm) (by positivity))
      | negative => exact iff_of_false nofun (hneg _ hnonneg)

/-- What is a number and not at most zero is above zero. -/
theorem zero_lt_of_not_le {x : Float} (hx : x.isNaN = false) (h : ¬ x ≤ 0) : 0 < x := by
  have hle : ¬ x.toModel.unpack.le (.zero .positive) = true := by
    intro hle
    exact h (decide_eq_true (p := x.toModel ≤ (0 : Float).toModel) hle)
  have hnumber := (isNumber_iff x).mp hx
  refine decide_eq_true (p := (0 : Float).toModel < x.toModel) ?_
  change UnpackedFloat.lt (.zero .positive) x.toModel.unpack = true
  generalize x.toModel.unpack = u at hle hnumber
  cases u with
  | notANumber => exact (hnumber rfl).elim
  | zero s => exact (hle rfl).elim
  | infinity s | finite s =>
      cases s with
      | positive => rfl
      | negative => exact (hle rfl).elim

theorem value_nonneg_of_le {x : Float} (h : 0 ≤ x) : 0 ≤ value x := by
  have hle : UnpackedFloat.le (.zero .positive) x.toModel.unpack = true :=
    of_decide_eq_true (p := (0 : Float).toModel ≤ x.toModel) h
  rw [value]
  have hnonneg := magnitude_nonneg x.toModel.unpack
  generalize x.toModel.unpack = u at hle hnonneg
  cases u with
  | notANumber => cases hle
  | zero s =>
      cases s with
      | positive => exact le_rfl
      | negative => exact neg_zero.ge
  | infinity s | finite s =>
      cases s with
      | positive => exact hnonneg
      | negative => cases hle

/-! ## Packed numbers -/

/-- What an unpacked number comes to in 64 bits: a number beyond the largest double becomes an
infinity. -/
structure Packs (s : Sign) (r : ℚ) (x : Float) : Prop where
  isNaN_eq : x.isNaN = false
  sign_eq : sign x.toModel.unpack = s
  magnitude_eq : magnitude x.toModel.unpack = min r overflow

variable {s : Sign} {r : ℚ} {u : UnpackedFloat} {x y : Float}

theorem Packs.of_unpack (hx : x.toModel.unpack = u) (hnumber : u ≠ .notANumber)
    (hsign : sign u = s) (hmagnitude : magnitude u = min r overflow) : Packs s r x where
  isNaN_eq := isNaN_of_unpack hx hnumber
  sign_eq := by rw [hx, hsign]
  magnitude_eq := by rw [hx, hmagnitude]

theorem Packs.value_eq (h : Packs s r x) : value x = signed s (min r overflow) := by
  rw [value, h.sign_eq, h.magnitude_eq]

theorem lt_overflow {m : ℕ} {e : ℤ} (hfits : Fits m e) (hmax : e ≤ 971) :
    (m : ℚ) * 2 ^ e < overflow := by
  have hm : (m : ℚ) < 2 ^ (53 : ℤ) := by exact_mod_cast hfits.lt
  calc (m : ℚ) * 2 ^ e < 2 ^ (53 : ℤ) * 2 ^ e := mul_lt_mul_of_pos_right hm (by positivity)
    _ = 2 ^ (53 + e) := (zpow_add₀ (by norm_num) _ _).symm
    _ ≤ overflow := zpow_le_zpow_right₀ (by norm_num) (by omega)

theorem overflow_le {m : ℕ} {e : ℤ} (hfits : Fits m e) (hlarge : 971 < e) :
    overflow ≤ m * 2 ^ e := by
  have hm : (2 : ℚ) ^ (52 : ℤ) ≤ m := by exact_mod_cast hfits.full.resolve_left (by omega)
  calc overflow ≤ 2 ^ (52 + e) := zpow_le_zpow_right₀ (by norm_num) (by omega)
    _ = 2 ^ (52 : ℤ) * 2 ^ e := zpow_add₀ (by norm_num) _ _
    _ ≤ m * 2 ^ e := mul_le_mul_of_nonneg_right hm (by positivity)

theorem Denotes.packs (h : Denotes s r u) (hx : x.toModel.unpack = (Float.Model.pack u).unpack) :
    Packs s r x := by
  cases h with
  | zero =>
      rw [unpack_pack_zero] at hx
      exact .of_unpack hx nofun rfl (min_eq_left overflow_pos.le).symm
  | @finite m e hm hfits =>
      by_cases hmax : e ≤ 971
      · rw [unpack_pack hfits hmax] at hx
        exact .of_unpack hx nofun rfl (min_eq_left (lt_overflow hfits hmax).le).symm
      · rw [unpack_pack_of_lt (Int.not_le.mp hmax)] at hx
        exact .of_unpack hx nofun rfl (min_eq_right (overflow_le hfits (Int.not_le.mp hmax))).symm

/-! ## The values of numbers -/

theorem eq_zero_or_finite_of_isFinite (hx : x.isFinite = true) :
    (∃ s, x.toModel.unpack = .zero s) ∨
      ∃ s m e hm, x.toModel.unpack = .finite s m e hm ∧ Fits m e ∧ e ≤ 971 := by
  change x.toModel.unpack.isFinite = true at hx
  cases hu : x.toModel.unpack with
  | zero s => exact .inl ⟨s, rfl⟩
  | finite s m e hm => exact .inr ⟨s, m, e, hm, rfl, fits_of_unpack hu⟩
  | _ =>
      rw [hu] at hx
      cases hx

theorem isNaN_of_isFinite (hx : x.isFinite = true) : x.isNaN = false := by
  rcases eq_zero_or_finite_of_isFinite hx with ⟨s, hu⟩ | ⟨s, m, e, hm, hu, -⟩
  · exact isNaN_of_unpack hu nofun
  · exact isNaN_of_unpack hu nofun

theorem isFinite_or_infinity (hx : x.isNaN = false) :
    x.isFinite = true ∨ ∃ s, x.toModel.unpack = .infinity s := by
  have hnumber := (isNumber_iff x).mp hx
  change x.toModel.unpack.isFinite = true ∨ _
  cases hu : x.toModel.unpack with
  | notANumber => exact (hnumber hu).elim
  | infinity s => exact .inr ⟨s, rfl⟩
  | _ => exact .inl rfl

theorem value_of_finite {m : ℕ} {e : ℤ} {hm : 0 < m} (hx : x.toModel.unpack = .finite s m e hm) :
    value x = (s.apply m : ℤ) * 2 ^ e := by
  rw [value, hx]
  cases s with
  | positive =>
      change (m : ℚ) * 2 ^ e = ((m : ℤ) : ℚ) * 2 ^ e
      rw [Int.cast_natCast]
  | negative =>
      change -((m : ℚ) * 2 ^ e) = ((-m : ℤ) : ℚ) * 2 ^ e
      rw [Int.cast_neg, Int.cast_natCast, neg_mul]

theorem value_of_zero (hx : x.toModel.unpack = .zero s) : value x = 0 := by
  rw [value, hx]
  cases s with
  | positive => rfl
  | negative => exact neg_zero

theorem value_of_infinity (hx : x.toModel.unpack = .infinity s) : value x = signed s overflow := by
  rw [value, hx]
  rfl

theorem abs_value_lt (hx : x.isFinite = true) : |value x| < overflow := by
  rcases eq_zero_or_finite_of_isFinite hx with ⟨s, hu⟩ | ⟨s, m, e, hm, hu, hfits, hmax⟩
  · rw [value_of_zero hu, abs_zero]
    exact overflow_pos
  · have hlt := lt_overflow hfits hmax
    have hnonneg : (0 : ℚ) ≤ m * 2 ^ e := mul_nonneg (Nat.cast_nonneg _) (by positivity)
    rw [value, hu]
    cases s with
    | positive => exact (abs_of_nonneg hnonneg).trans_lt hlt
    | negative => exact (abs_neg _).trans_lt ((abs_of_nonneg hnonneg).trans_lt hlt)

/-! ## Rounding up -/

section Ceiling

variable (m : ℕ) (e : ℤ)

theorem mul_zpow_eq_div :
    (m : ℚ) * 2 ^ e = (m * Nat.pow 2 e.toNat : ℕ) / (Nat.pow 2 (-e).toNat : ℕ) := by
  change _ = ((m * 2 ^ e.toNat : ℕ) : ℚ) / (2 ^ (-e).toNat : ℕ)
  have hexponent : e = (e.toNat : ℤ) - ((-e).toNat : ℤ) := by omega
  conv_lhs => rw [hexponent, zpow_sub₀ (by norm_num), zpow_natCast, zpow_natCast]
  push_cast
  rw [mul_div_assoc]

theorem ceilingNat_eq : (ceilingNat m e : ℤ) = ⌈(m : ℚ) * 2 ^ e⌉ := by
  rw [mul_zpow_eq_div]
  unfold ceilingNat
  generalize m * Nat.pow 2 e.toNat = a
  have hpos : 0 < Nat.pow 2 (-e).toNat := Nat.two_pow_pos _
  generalize Nat.pow 2 (-e).toNat = b at hpos
  have hdiv := Nat.div_add_mod (a + (b - 1)) b
  have hmod := Nat.mod_lt (a + (b - 1)) hpos
  dsimp only
  generalize (a + (b - 1)) / b = q at hdiv
  have hb : (0 : ℚ) < b := by exact_mod_cast hpos
  symm
  rw [Int.ceil_eq_iff, lt_div_iff₀ hb, div_le_iff₀ hb]
  have hlower : q * b < a + b := by
    rw [Nat.mul_comm]
    omega
  have hupper : a ≤ q * b := by
    rw [Nat.mul_comm]
    omega
  have hlower' : (q : ℚ) * b < a + b := by exact_mod_cast hlower
  refine ⟨?_, by exact_mod_cast hupper⟩
  push_cast
  linarith

theorem floorNat_eq : (floorNat m e : ℤ) = ⌊(m : ℚ) * 2 ^ e⌋ := by
  rw [mul_zpow_eq_div]
  exact (Rat.floor_natCast_div_natCast _ _).symm

theorem ceiling_of_read {negative : Bool} (h : read x = .finite negative m e) :
    ceiling x = .ok ⌈signed (if negative then .negative else .positive) (m * 2 ^ e)⌉ := by
  unfold ceiling
  rw [h]
  cases negative with
  | false => exact congrArg _ (ceilingNat_eq m e)
  | true =>
      change Except.ok (-(floorNat m e : ℤ)) = Except.ok ⌈-((m : ℚ) * 2 ^ e)⌉
      rw [floorNat_eq, Int.ceil_neg]

end Ceiling

/-- A finite double has the least whole number above its value for its ceiling. -/
theorem ceiling_of_isFinite (hx : x.isFinite = true) : ceiling x = .ok ⌈value x⌉ := by
  have hread := read_eq x
  rcases eq_zero_or_finite_of_isFinite hx with ⟨s, hu⟩ | ⟨s, m, e, hm, hu, -⟩
  · rw [hu] at hread
    rw [ceiling_of_read _ _ hread, value_of_zero hu, Nat.cast_zero, zero_mul]
    cases s with
    | positive => rfl
    | negative => exact congrArg (fun q : ℚ => Except.ok ⌈q⌉) neg_zero
  · rw [hu] at hread
    rw [ceiling_of_read _ _ hread, value, hu]
    cases s <;> rfl

end RichText.Decimal
