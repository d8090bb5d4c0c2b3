import RichText.Proofs.Decimal.Values

/-! # Equality of doubles

Two doubles are equal if both are numbers and the same number, the signs of zeros aside. What is no
number is equal to nothing, not even to itself. So equality is symmetric and transitive, but
reflexive for numbers only. -/

namespace RichText.Decimal

open Float.Model
open Float.Model.UnpackedFloat (Sign)

/-- An unpacked double but for the sign of zero. -/
def unsignedZero : UnpackedFloat → UnpackedFloat
  | .zero _ => .zero .positive
  | u => u

/-- Two mantissas with their exponents are compared as equal if they are the same. -/
theorem compare_then_compare_eq_iff {s : Sign} {m n : ℕ} {e f : ℤ} {hm : 0 < m} {hn : 0 < n} :
    (compare e f).then (compare m n) = .eq ↔
      UnpackedFloat.finite s m e hm ≠ .notANumber ∧
        unsignedZero (.finite s m e hm) = unsignedZero (.finite s n f hn) := by
  rw [Ordering.then_eq_eq, Int.compare_eq_eq, Nat.compare_eq_eq]
  constructor
  · rintro ⟨rfl, rfl⟩
    exact ⟨nofun, rfl⟩
  · rintro ⟨-, h⟩
    cases h
    exact ⟨rfl, rfl⟩

theorem compare_eq_iff (u v : UnpackedFloat) :
    u.compare v = some .eq ↔ u ≠ .notANumber ∧ unsignedZero u = unsignedZero v := by
  cases u with
  | notANumber => exact iff_of_false nofun fun h => h.1 rfl
  | zero s =>
    cases v with
    | zero t => exact iff_of_true rfl ⟨nofun, rfl⟩
    | notANumber => exact iff_of_false nofun nofun
    | infinity t | finite t => cases t <;> exact iff_of_false nofun nofun
  | infinity s =>
    cases v with
    | infinity t =>
      cases s <;> cases t
      · exact iff_of_true rfl ⟨nofun, rfl⟩
      · exact iff_of_false nofun nofun
      · exact iff_of_false nofun nofun
      · exact iff_of_true rfl ⟨nofun, rfl⟩
    | _ => cases s <;> exact iff_of_false nofun nofun
  | finite s m e hm =>
    cases v with
    | finite t n f hn =>
      cases s <;> cases t
      · exact (Option.some_inj.trans Ordering.swap_eq_eq).trans compare_then_compare_eq_iff
      · exact iff_of_false nofun nofun
      · exact iff_of_false nofun nofun
      · exact Option.some_inj.trans compare_then_compare_eq_iff
    | infinity t => cases s <;> cases t <;> exact iff_of_false nofun nofun
    | _ => cases s <;> exact iff_of_false nofun nofun

theorem beq_iff (x y : Float) : (x == y) = true ↔
    x.isNaN = false ∧ unsignedZero x.toModel.unpack = unsignedZero y.toModel.unpack := by
  have hbeq : (x == y) = (x.toModel.unpack.compare y.toModel.unpack == some .eq) := rfl
  rw [hbeq, beq_iff_eq, compare_eq_iff, isNumber_iff]

/-- Of two equal doubles both are numbers. -/
theorem isNaN_of_beq {x y : Float} (h : (x == y) = true) : y.isNaN = false := by
  obtain ⟨hx, hxy⟩ := (beq_iff x y).mp h
  rw [isNumber_iff] at hx ⊢
  intro hy
  rw [hy] at hxy
  generalize x.toModel.unpack = u at hx hxy
  cases u with
  | notANumber => exact hx rfl
  | _ => cases hxy

instance partialEquivBEq_float : PartialEquivBEq Float where
  symm h := (beq_iff _ _).mpr ⟨isNaN_of_beq h, ((beq_iff _ _).mp h).2.symm⟩
  trans h h' :=
    (beq_iff _ _).mpr ⟨((beq_iff _ _).mp h).1, ((beq_iff _ _).mp h).2.trans ((beq_iff _ _).mp h').2⟩

theorem beq_self_of_isNaN {x : Float} (h : x.isNaN = false) : (x == x) = true :=
  (beq_iff x x).mpr ⟨h, rfl⟩

end RichText.Decimal
