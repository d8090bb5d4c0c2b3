import RichText.Proofs.Decimal.Values

/-! # Products and differences of doubles

Products with a growing factor move in one direction, and with factors far apart they differ. A
difference has the sign that the order of its two numbers gives it. All this holds beyond the largest
double too. -/

namespace RichText.Decimal

open Float.Model
open Float.Model.UnpackedFloat (Sign decreaseExponent roundWithAccuracy)

variable {s : Sign} {x y : Float}

/-! ## Products -/

theorem isRounded_zero : IsRounded 0 0 :=
  ⟨0, -1074, ⟨le_rfl, by positivity, .inl rfl⟩, by simpa using isNearest_natCast 0, by simp⟩

theorem mul_positive (s : Sign) : s * .positive = s := by
  cases s <;> rfl

/-- No bits have to be added to the product of two mantissas. -/
theorem le_targetExponent_mul {m n : ℕ} {e f : ℤ} (hm : 0 < m) (hn : 0 < n) (hme : Fits m e)
    (hnf : Fits n f) : e + f ≤ targetExponent (m * n) (e + f) := by
  unfold targetExponent
  have hpos : m * n ≠ 0 := (Nat.mul_pos hm hn).ne'
  have hlong : ∀ k, 2 ^ 52 ≤ k → k ≤ m * n → 52 ≤ (m * n).log2 :=
    fun k hk hle => (Nat.le_log2 hpos).mpr (hk.trans hle)
  rcases hme.full with he | hlarge
  · rcases hnf.full with hf | hlarge
    · omega
    · have := hlong n hlarge (Nat.le_mul_of_pos_left n hm)
      omega
  · have := hlong m hlarge (Nat.le_mul_of_pos_right m hn)
    omega

/-- A product with a number above zero has the sign of its other factor and is rounded once. -/
theorem exists_packs_mul {n : ℕ} {f : ℤ} {hn : 0 < n} (hx : x.isFinite = true)
    (hy : y.toModel.unpack = .finite .positive n f hn) :
    ∃ r, IsRounded (magnitude x.toModel.unpack * (n * 2 ^ f)) r ∧
      Packs (sign x.toModel.unpack) r (x * y) := by
  have hmul : (x * y).toModel.unpack =
    (Float.Model.pack (UnpackedFloat.mul Format.binary64 x.toModel.unpack y.toModel.unpack)).unpack :=
    rfl
  rw [hy] at hmul
  rcases eq_zero_or_finite_of_isFinite hx with ⟨s, hu⟩ | ⟨s, m, e, hm, hu, hfits, -⟩
  · rw [hu] at hmul ⊢
    refine ⟨0, ?_, ?_⟩
    · change IsRounded (0 * _) 0
      rw [zero_mul]
      exact isRounded_zero
    · have hdenotes : Denotes s 0 (.zero (s * .positive)) := by
        rw [mul_positive]
        exact .zero
      exact hdenotes.packs hmul
  · rw [hu] at hmul ⊢
    have hle := le_targetExponent_mul hm hn hfits (fits_of_unpack hy).1
    obtain ⟨r, hr, hdenotes⟩ :=
      exists_denotes_roundWithAccuracy (s * .positive) (Nat.mul_pos hm hn) hle
    have hpacks := hdenotes.packs hmul
    rw [mul_positive] at hpacks
    refine ⟨r, ?_, hpacks⟩
    have hproduct : ((m * n : ℕ) : ℚ) * 2 ^ (e + f) = m * 2 ^ e * (n * 2 ^ f) := by
      rw [zpow_add₀ (by norm_num), Nat.cast_mul]
      ring
    rwa [hproduct] at hr

theorem unpacked_mul_comm (u v : UnpackedFloat) :
    UnpackedFloat.mul Format.binary64 u v = UnpackedFloat.mul Format.binary64 v u := by
  have hsign : ∀ s t : Sign, s * t = t * s := by
    intro s t
    cases s <;> cases t <;> rfl
  cases u <;> cases v
  case finite.finite s m e hm t n f hn =>
    change roundWithAccuracy _ (s * t) (m * n) (e + f) .exact =
      roundWithAccuracy _ (t * s) (n * m) (f + e) .exact
    rw [hsign, Nat.mul_comm, Int.add_comm]
  all_goals first | rfl | exact congrArg _ (hsign _ _)

protected theorem mul_comm (x y : Float) : x * y = y * x :=
  congrArg (fun u => Float.ofModel (Float.Model.pack u))
    (unpacked_mul_comm x.toModel.unpack y.toModel.unpack)

/-- The ranks of headings are doubles. -/
theorem exists_unpack_ofNat {n : ℕ} (hn : 1 ≤ n) (hle : n ≤ 6) :
    ∃ m e hm, (Float.ofNat n).toModel.unpack = .finite .positive m e hm ∧ (m : ℚ) * 2 ^ e = n := by
  obtain rfl | rfl | rfl | rfl | rfl | rfl : n = 1 ∨ n = 2 ∨ n = 3 ∨ n = 4 ∨ n = 5 ∨ n = 6 := by
    omega
  · exact ⟨2 ^ 52, -52, by decide, rfl, by norm_num⟩
  · exact ⟨2 ^ 52, -51, by decide, rfl, by norm_num⟩
  · exact ⟨3 * 2 ^ 51, -51, by decide, rfl, by norm_num⟩
  · exact ⟨2 ^ 52, -50, by decide, rfl, by norm_num⟩
  · exact ⟨5 * 2 ^ 50, -50, by decide, rfl, by norm_num⟩
  · exact ⟨6 * 2 ^ 50, -50, by decide, rfl, by norm_num⟩

/-- Products of one number with larger and larger ranks move away from zero. -/
theorem magnitude_mul_ofNat_le {j k : ℕ} (hx : x.isFinite = true) (hj : 1 ≤ j) (hjk : j ≤ k)
    (hk : k ≤ 6) :
    ∃ q r, q ≤ r ∧ Packs (sign x.toModel.unpack) q (x * Float.ofNat j) ∧
      Packs (sign x.toModel.unpack) r (x * Float.ofNat k) ∧
        (magnitude x.toModel.unpack = 0 → r ≤ q) := by
  obtain ⟨m, e, hm, huj, hvj⟩ := exists_unpack_ofNat hj (hjk.trans hk)
  obtain ⟨n, f, hn, huk, hvk⟩ := exists_unpack_ofNat (hj.trans hjk) hk
  obtain ⟨q, hq, hpacksj⟩ := exists_packs_mul hx huj
  obtain ⟨r, hr, hpacksk⟩ := exists_packs_mul hx huk
  rw [hvj] at hq
  rw [hvk] at hr
  refine ⟨q, r, hq.mono hr ?_, hpacksj, hpacksk, ?_⟩
  · exact mul_le_mul_of_nonneg_left (by exact_mod_cast hjk) (magnitude_nonneg _)
  · intro hzero
    exact hr.mono hq (by rw [hzero, zero_mul, zero_mul])

/-- The products of a number with ranks rise with the rank, or fall if the number is below zero. -/
theorem value_mul_ofNat_le {j k : ℕ} (hx : x.isFinite = true) (hj : 1 ≤ j) (hjk : j ≤ k)
    (hk : k ≤ 6) :
    (0 ≤ value x → value (x * Float.ofNat j) ≤ value (x * Float.ofNat k)) ∧
      (value x ≤ 0 → value (x * Float.ofNat k) ≤ value (x * Float.ofNat j)) := by
  obtain ⟨q, r, hle, hpacksj, hpacksk, hzero⟩ := magnitude_mul_ofNat_le hx hj hjk hk
  have hnonneg := magnitude_nonneg x.toModel.unpack
  rw [hpacksj.value_eq, hpacksk.value_eq, value]
  cases sign x.toModel.unpack with
  | positive =>
      refine ⟨fun _ => min_le_min_right _ hle, fun h => ?_⟩
      exact min_le_min_right _ (hzero (le_antisymm h hnonneg))
  | negative =>
      refine ⟨fun h => ?_, fun _ => neg_le_neg (min_le_min_right _ hle)⟩
      have hmagnitude : magnitude x.toModel.unpack = 0 :=
        le_antisymm (by simpa [signed] using h) hnonneg
      exact neg_le_neg (min_le_min_right _ (hzero hmagnitude))

/-! ## Differences -/

/-- Bits of value zero at the end of a mantissa leave the number as it is. -/
theorem shiftLeft_mul_zpow (m k : ℕ) (e : ℤ) :
    ((m <<< k : ℕ) : ℚ) * 2 ^ (e - k) = m * 2 ^ e := by
  rw [Nat.shiftLeft_eq, Nat.cast_mul, Nat.cast_pow, Nat.cast_ofNat, ← zpow_natCast, mul_assoc,
    ← zpow_add₀ (by norm_num), add_sub_cancel]

theorem log2_shiftLeft {m : ℕ} (hm : 0 < m) (k : ℕ) : (m <<< k).log2 = m.log2 + k := by
  rw [Nat.shiftLeft_eq]
  refine (Nat.log2_eq_iff (Nat.mul_pos hm (Nat.two_pow_pos k)).ne').mpr ⟨?_, ?_⟩
  · rw [Nat.pow_add]
    exact Nat.mul_le_mul_right _ (Nat.log2_self_le hm.ne')
  · rw [Nat.add_right_comm, Nat.pow_add]
    exact Nat.mul_lt_mul_of_pos_right Nat.lt_log2_self (Nat.two_pow_pos k)

/-- Rounding a mantissa with an exponent of any size, by adding bits first. -/
theorem exists_denotes_round {m : ℕ} {e : ℤ} (s : Sign) (hm : 0 < m) :
    ∃ r, IsRounded (m * 2 ^ e) r ∧ Denotes s r (UnpackedFloat.round Format.binary64 s m e) := by
  have hround : UnpackedFloat.round Format.binary64 s m e =
    roundWithAccuracy Format.binary64 s (m <<< (e - targetExponent m e).toNat)
      (e - ((e - targetExponent m e).toNat : ℤ)) .exact := rfl
  generalize hk : (e - targetExponent m e).toNat = k at hround
  have htarget : targetExponent (m <<< k) (e - k) = targetExponent m e := by
    unfold targetExponent
    rw [log2_shiftLeft hm]
    omega
  have hpos : 0 < m <<< k := by
    rw [Nat.shiftLeft_eq]
    exact Nat.mul_pos hm (Nat.two_pow_pos k)
  have hrounded := exists_denotes_roundWithAccuracy s hpos (e := e - k) (by omega)
  rwa [shiftLeft_mul_zpow, ← hround] at hrounded

/-- A number from the least exponent up is not rounded to zero. -/
theorem IsRounded.pos {m : ℕ} {e : ℤ} {r : ℚ} (hm : 0 < m) (he : -1074 ≤ e)
    (h : IsRounded (m * 2 ^ e) r) : 0 < r := by
  have hleast : IsRounded (2 ^ (-1074 : ℤ)) (2 ^ (-1074 : ℤ)) := by
    refine ⟨1, -1074, ⟨le_rfl, zpow_lt_zpow_right₀ (by norm_num) (by omega), .inl rfl⟩, ?_, ?_⟩
    · rw [div_self (by positivity)]
      exact isNearest_natCast 1
    · simp
  have hone : (1 : ℚ) ≤ m := by exact_mod_cast hm
  have hle : (2 : ℚ) ^ (-1074 : ℤ) ≤ m * 2 ^ e := by
    calc (2 : ℚ) ^ (-1074 : ℤ) ≤ 2 ^ e := zpow_le_zpow_right₀ (by norm_num) he
      _ ≤ m * 2 ^ e := le_mul_of_one_le_left (by positivity) hone
  exact lt_of_lt_of_le (by positivity) (hleast.mono h hle)

/-- A whole number times a power of two is above zero after rounding if and only if it was. -/
theorem packs_normalize {d e : ℤ} (he : -1074 ≤ e)
    (hx : x.toModel.unpack =
      (Float.Model.pack (UnpackedFloat.normalize Format.binary64 d e .positive)).unpack) :
    x.isNaN = false ∧ (0 < value x ↔ 0 < d) := by
  rcases lt_trichotomy d 0 with hd | rfl | hd
  · have hnormalize : UnpackedFloat.normalize Format.binary64 d e .positive =
        UnpackedFloat.round Format.binary64 .negative (-d).toNat e := by
      unfold UnpackedFloat.normalize
      rw [Int.compare_eq_lt.mpr hd]
    obtain ⟨r, hr, hdenotes⟩ :=
      exists_denotes_round (e := e) .negative (m := (-d).toNat) (by omega)
    have hpacks := hdenotes.packs (hx.trans (by rw [hnormalize]))
    have hpos : 0 < min r overflow := lt_min (hr.pos (by omega) he) overflow_pos
    refine ⟨hpacks.isNaN_eq, iff_of_false ?_ (by omega)⟩
    rw [hpacks.value_eq, signed]
    linarith
  · have hpacks := Denotes.zero.packs (s := .positive) hx
    refine ⟨hpacks.isNaN_eq, iff_of_false ?_ (lt_irrefl 0)⟩
    rw [hpacks.value_eq, min_eq_left overflow_pos.le]
    exact lt_irrefl 0
  · have hnormalize : UnpackedFloat.normalize Format.binary64 d e .positive =
        UnpackedFloat.round Format.binary64 .positive d.toNat e := by
      unfold UnpackedFloat.normalize
      rw [Int.compare_eq_gt.mpr hd]
    obtain ⟨r, hr, hdenotes⟩ :=
      exists_denotes_round (e := e) .positive (m := d.toNat) (by omega)
    have hpacks := hdenotes.packs (hx.trans (by rw [hnormalize]))
    refine ⟨hpacks.isNaN_eq, iff_of_true ?_ hd⟩
    rw [hpacks.value_eq, signed]
    exact lt_min (hr.pos (by omega) he) overflow_pos

section Difference

variable {s' : Sign} {m n : ℕ} {e f : ℤ} {hm : 0 < m} {hn : 0 < n}

theorem unpack_sub (x y : Float) : (x - y).toModel.unpack =
    (Float.Model.pack (UnpackedFloat.sub Format.binary64 x.toModel.unpack y.toModel.unpack)).unpack :=
  rfl

/-- Taking away zero, or from zero, needs no rounding. -/
theorem value_sub_of_zero (hx : x.isFinite = true) (hy : y.isFinite = true)
    (hzero : x.toModel.unpack = .zero s ∨ y.toModel.unpack = .zero s) :
    (x - y).isNaN = false ∧ value (x - y) = value x - value y := by
  have hsub := unpack_sub x y
  rcases eq_zero_or_finite_of_isFinite hx with ⟨t, hu⟩ | ⟨t, m, e, hm, hu, hfits, hmax⟩ <;>
    rcases eq_zero_or_finite_of_isFinite hy with ⟨t', hv⟩ | ⟨t', n, f, hn, hv, hfits', hmax'⟩ <;>
      rw [hu, hv] at hsub
  · obtain ⟨t'', hzero⟩ : ∃ t'', UnpackedFloat.sub Format.binary64 (.zero t) (.zero t') = .zero t'' := by
      change ∃ t'', (if t == -t' then UnpackedFloat.zero t else .zero .positive) = .zero t''
      cases t == -t' with
      | true => exact ⟨t, rfl⟩
      | false => exact ⟨.positive, rfl⟩
    rw [hzero, unpack_pack_zero] at hsub
    refine ⟨isNaN_of_unpack hsub nofun, ?_⟩
    rw [value_of_zero hsub, value_of_zero hu, value_of_zero hv, sub_zero]
  · have hdifference : (x - y).toModel.unpack = .finite (-t') n f hn :=
      hsub.trans (unpack_pack hfits' hmax')
    refine ⟨isNaN_of_unpack hdifference nofun, ?_⟩
    have happly : (-t').apply (n : ℤ) = -t'.apply (n : ℤ) := by
      cases t' with
      | negative => exact (neg_neg _).symm
      | positive => rfl
    rw [value_of_finite hdifference, value_of_zero hu, value_of_finite hv, happly, Int.cast_neg,
      zero_sub, neg_mul]
  · have hdifference : (x - y).toModel.unpack = .finite t m e hm :=
      hsub.trans (unpack_pack hfits hmax)
    refine ⟨isNaN_of_unpack hdifference nofun, ?_⟩
    rw [value_of_finite hdifference, value_of_zero hv, value_of_finite hu, sub_zero]
  · rcases hzero with hzero | hzero
    · rw [hu] at hzero
      cases hzero
    · rw [hv] at hzero
      cases hzero

/-- A signed mantissa with the bits that bring it to a lower exponent. -/
theorem apply_decreaseExponent (s : Sign) (m : ℕ) {e f : ℤ} (hf : f ≤ e) :
    ((s.apply ((decreaseExponent m e f).1 : ℤ) : ℤ) : ℚ) * 2 ^ f = (s.apply (m : ℤ) : ℤ) * 2 ^ e := by
  have hvalue := shiftLeft_mul_zpow m (e - f).toNat e
  rw [Int.toNat_of_nonneg (by omega), sub_sub_cancel] at hvalue
  cases s with
  | positive => exact hvalue
  | negative =>
      simp only [Sign.apply, Int.cast_neg, neg_mul]
      exact congrArg _ hvalue

/-- The difference of two numbers other than zero is rounded, but not to zero. -/
theorem zero_lt_sub_of_finite (hx : x.toModel.unpack = .finite s m e hm)
    (hy : y.toModel.unpack = .finite s' n f hn) :
    (x - y).isNaN = false ∧ (0 < value (x - y) ↔ value y < value x) := by
  have hsub := unpack_sub x y
  rw [hx, hy] at hsub
  have hleast : -1074 ≤ min e f := le_min (fits_of_unpack hx).1.le (fits_of_unpack hy).1.le
  obtain ⟨hnumber, hiff⟩ := packs_normalize hleast hsub
  refine ⟨hnumber, hiff.trans ?_⟩
  have hpos : (0 : ℚ) < 2 ^ min e f := by positivity
  rw [value_of_finite hx, value_of_finite hy, ← apply_decreaseExponent s m (min_le_left e f),
    ← apply_decreaseExponent s' n (min_le_right e f), mul_lt_mul_iff_left₀ hpos, Int.cast_lt,
    Int.sub_pos]
  exact Iff.rfl

end Difference

/-- The difference of a number and a number or an infinity is above zero if and only if the second
is below the first. -/
theorem zero_lt_sub_iff (hx : x.isFinite = true) (hy : y.isNaN = false) :
    (x - y).isNaN = false ∧ (0 < x - y ↔ value y < value x) := by
  rw [zero_lt_iff]
  rcases isFinite_or_infinity hy with hy | ⟨s, hv⟩
  · rcases eq_zero_or_finite_of_isFinite hx with ⟨t, hu⟩ | ⟨t, m, e, hm, hu, -⟩
    · obtain ⟨hnumber, heq⟩ := value_sub_of_zero hx hy (.inl hu)
      exact ⟨hnumber, by rw [heq, sub_pos]⟩
    · rcases eq_zero_or_finite_of_isFinite hy with ⟨t', hv⟩ | ⟨t', n, f, hn, hv, -⟩
      · obtain ⟨hnumber, heq⟩ := value_sub_of_zero hx hy (.inr hv)
        exact ⟨hnumber, by rw [heq, sub_pos]⟩
      · exact zero_lt_sub_of_finite hu hv
  · -- An infinity that is taken away leaves the other one, and every number lies between them.
    have hsub : (x - y).toModel.unpack = .infinity (-s) := by
      rw [unpack_sub, hv]
      rcases eq_zero_or_finite_of_isFinite hx with ⟨t, hu⟩ | ⟨t, m, e, hm, hu, -⟩ <;> rw [hu] <;>
        exact unpack_pack_infinity _
    have hbound := abs_lt.mp (abs_value_lt hx)
    refine ⟨isNaN_of_unpack hsub nofun, ?_⟩
    rw [value_of_infinity hsub, value_of_infinity hv]
    cases s with
    | negative => exact iff_of_true overflow_pos hbound.1
    | positive => exact iff_of_false (not_lt.mpr (neg_nonpos.mpr overflow_pos.le)) hbound.2.not_gt

/-! ## Factors far apart -/

/-- A double is rounded to itself. -/
theorem isRounded_of_fits {m : ℕ} {e : ℤ} (h : Fits m e) :
    IsRounded (m * 2 ^ e) (m * 2 ^ e) := by
  have hpos : (0 : ℚ) < 2 ^ e := by positivity
  refine ⟨m, e, ⟨h.le, ?_, ?_⟩, ?_, rfl⟩
  · rw [add_comm, zpow_add₀ (by norm_num)]
    exact mul_lt_mul_of_pos_right (by exact_mod_cast h.lt) hpos
  · refine h.full.imp_right fun hfull => ?_
    rw [add_comm, zpow_add₀ (by norm_num)]
    exact mul_le_mul_of_nonneg_right (by exact_mod_cast hfull) hpos.le
  · rw [mul_div_cancel_right₀ _ hpos.ne']
    exact isNearest_natCast m

/-- Twice a double is rounded to itself too, though it may be beyond all doubles. -/
theorem isRounded_two_mul_of_fits {m : ℕ} {e : ℤ} (h : Fits m e) :
    IsRounded (2 * (m * 2 ^ e)) (2 * (m * 2 ^ e)) := by
  by_cases hshort : m < 2 ^ 52
  · have he : e = -1074 := h.full.resolve_right (Nat.not_le.mpr hshort)
    have hdouble : (2 : ℚ) * (m * 2 ^ e) = (2 * m : ℕ) * 2 ^ e := by
      push_cast
      ring
    rw [hdouble]
    exact isRounded_of_fits ⟨by omega, h.le, .inl he⟩
  · have hdouble : (2 : ℚ) * (m * 2 ^ e) = m * 2 ^ (e + 1) := by
      rw [zpow_add₀ (by norm_num)]
      ring
    have hle := h.le
    rw [hdouble]
    exact isRounded_of_fits ⟨h.lt, by omega, .inr (Nat.not_lt.mp hshort)⟩

/-- An unpacked number above zero between two whole numbers. -/
def UnpackedBetween (low high : ℕ) : UnpackedFloat → Prop
  | .finite .positive m e _ => e ≤ 0 ∧ low * 2 ^ (-e).toNat ≤ m ∧ m ≤ high * 2 ^ (-e).toNat
  | _ => False

instance (low high : ℕ) : (u : UnpackedFloat) → Decidable (UnpackedBetween low high u)
  | .finite .positive m e _ => inferInstanceAs (Decidable
      (e ≤ 0 ∧ low * 2 ^ (-e).toNat ≤ m ∧ m ≤ high * 2 ^ (-e).toNat))
  | .finite .negative _ _ _ | .zero _ | .infinity _ | .notANumber => isFalse id

/-- A double above zero between two whole numbers. -/
structure Between (low high : ℕ) (x : Float) : Prop where
  unpacked : UnpackedBetween low high x.toModel.unpack

instance (low high : ℕ) (x : Float) : Decidable (Between low high x) :=
  decidable_of_iff (UnpackedBetween low high x.toModel.unpack) ⟨.mk, Between.unpacked⟩

theorem Between.exists_unpack {low high : ℕ} (h : Between low high x) :
    ∃ n f hn, x.toModel.unpack = .finite .positive n f hn ∧
      (low : ℚ) ≤ n * 2 ^ f ∧ (n : ℚ) * 2 ^ f ≤ high := by
  have hunpacked := h.unpacked
  cases hu : x.toModel.unpack with
  | finite s n f hn =>
      rw [hu] at hunpacked
      cases s with
      | negative => cases hunpacked
      | positive =>
          obtain ⟨hf, hlow, hhigh⟩ := hunpacked
          have hpow : (2 : ℚ) ^ f = 1 / (2 ^ (-f).toNat : ℕ) := by
            push_cast
            rw [← zpow_natCast, Int.toNat_of_nonneg (by omega), zpow_neg, one_div, inv_inv]
          have hpos : (0 : ℚ) < (2 ^ (-f).toNat : ℕ) := by positivity
          refine ⟨n, f, hn, rfl, ?_, ?_⟩
          · rw [hpow, mul_one_div, le_div_iff₀ hpos]
            exact_mod_cast hlow
          · rw [hpow, mul_one_div, div_le_iff₀ hpos]
            exact_mod_cast hhigh
  | _ =>
      rw [hu] at hunpacked
      cases hunpacked

/-- A finite double other than the two zeros has a mantissa. -/
theorem exists_finite_of_ne_zero (hx : x.isFinite = true) (hzero : (x == 0) = false) :
    ∃ s m e hm, x.toModel.unpack = .finite s m e hm ∧ Fits m e ∧ e ≤ 971 := by
  rcases eq_zero_or_finite_of_isFinite hx with ⟨s, hu⟩ | hfinite
  · have hcompare : (x == 0) =
        (x.toModel.unpack.compare (0 : Float).toModel.unpack == some .eq) := rfl
    rw [hu] at hcompare
    cases hzero.symm.trans hcompare
  · exact hfinite

/-- What is at most as large as a number and what is at least twice as large differ after rounding. -/
theorem mul_ne_mul_of_between {a b : Float} {high : ℕ} (ha : Between 0 1 a) (hb : Between 2 high b)
    (hx : x.isFinite = true) (hzero : (x == 0) = false) : a * x ≠ b * x := by
  obtain ⟨n, f, hn, hua, -, hnarrow⟩ := ha.exists_unpack
  obtain ⟨n', f', hn', hub, hwide, -⟩ := hb.exists_unpack
  obtain ⟨r, hr, hpacksa⟩ := exists_packs_mul hx hua
  obtain ⟨q, hq, hpacksb⟩ := exists_packs_mul hx hub
  obtain ⟨s, m, e, hm, hu, hfits, hmax⟩ := exists_finite_of_ne_zero hx hzero
  have hpos : (0 : ℚ) < m * 2 ^ e := mul_pos (Nat.cast_pos.mpr hm) (by positivity)
  rw [hu] at hr hq hpacksa hpacksb
  change IsRounded (m * 2 ^ e * (n * 2 ^ f)) r at hr
  change IsRounded (m * 2 ^ e * (n' * 2 ^ f')) q at hq
  -- The number itself and twice the number lie between the two products.
  have hlow : r ≤ m * 2 ^ e :=
    hr.mono (isRounded_of_fits hfits) (mul_le_of_le_one_right hpos.le (by simpa using hnarrow))
  have hhigh : 2 * (m * 2 ^ e) ≤ q := by
    refine (isRounded_two_mul_of_fits hfits).mono hq ?_
    rw [mul_comm]
    exact mul_le_mul_of_nonneg_left (by simpa using hwide) hpos.le
  have hless : min r overflow < min q overflow := by
    have hbound := lt_overflow hfits hmax
    exact lt_of_le_of_lt (min_le_left _ _) (lt_min (by linarith) (by linarith))
  intro heq
  rw [Decimal.mul_comm a, Decimal.mul_comm b] at heq
  have hvalue := congrArg (fun y : Float => magnitude y.toModel.unpack) heq
  rw [hpacksa.magnitude_eq, hpacksb.magnitude_eq] at hvalue
  exact hless.ne hvalue

end RichText.Decimal
