import RichText.Proofs.Decimal.Equality
import RichText.Style.Attributes

/-! # Equality of attributes

Values of an attribute are compared part by part. So their equality is symmetric and transitive, as
that of doubles is, and a value is equal to itself if every size and position in it is a number. -/

namespace RichText

section

variable {α β γ : Type} [BEq α] [BEq β] [BEq γ]

/-- What is compared by two of its parts. -/
theorem partialEquivBEq_of_parts [PartialEquivBEq β] [PartialEquivBEq γ] (f : α → β) (g : α → γ)
    (h : ∀ a b, (a == b) = (f a == f b && g a == g b)) : PartialEquivBEq α where
  symm {a b} hab := by
    rw [h, Bool.and_eq_true] at hab ⊢
    exact ⟨PartialEquivBEq.symm hab.1, PartialEquivBEq.symm hab.2⟩
  trans {a b c} hab hbc := by
    rw [h, Bool.and_eq_true] at hab hbc ⊢
    exact ⟨BEq.trans hab.1 hbc.1, BEq.trans hab.2 hbc.2⟩

theorem beq_list_iff_forall₂ {xs ys : List α} :
    (xs == ys) = true ↔ List.Forall₂ (fun x y => (x == y) = true) xs ys := by
  induction xs generalizing ys with
  | nil => cases ys <;> simp
  | cons x xs ih => cases ys <;> simp [ih]

instance partialEquivBEq_list [PartialEquivBEq α] : PartialEquivBEq (List α) where
  symm h := by
    rw [beq_list_iff_forall₂] at h ⊢
    exact (h.imp fun _ _ => PartialEquivBEq.symm).flip
  trans {xs ys zs} h h' := by
    rw [beq_list_iff_forall₂] at h h' ⊢
    induction h generalizing zs with
    | nil => exact h'
    | cons hxy hrest ih =>
      obtain ⟨z, rest, hyz, hrest', rfl⟩ := List.forall₂_cons_left_iff.mp h'
      exact .cons (BEq.trans hxy hyz) (ih hrest')

instance partialEquivBEq_option [PartialEquivBEq α] : PartialEquivBEq (Option α) where
  symm {a b} h := by
    cases a <;> cases b
    · rfl
    · cases h
    · cases h
    · exact PartialEquivBEq.symm (α := α) h
  trans {a b c} h h' := by
    cases a <;> cases b
    · exact h'
    · cases h
    · cases h
    · cases c
      · cases h'
      · exact BEq.trans (α := α) h h'

end

theorem beq_tabStop (s t : TabStop) :
    (s == t) = (s.alignment == t.alignment && s.location == t.location) := rfl

theorem beq_paragraphStyle (s t : ParagraphStyle) :
    (s == t) = (s.tabStops == t.tabStops && s.headIndent == t.headIndent) := rfl

/-- The parts of a font but for its size. -/
def Font.unsized (f : Font) : String × String × Traits × Bool × Bool :=
  (f.family, f.face, f.traits, f.monospaced, f.monospacedDigits)

theorem beq_font (f g : Font) : (f == g) = (f.unsized == g.unsized && f.size == g.size) := by
  have hfields : (f == g) = (f.family == g.family && (f.face == g.face && (f.size == g.size &&
      (f.traits == g.traits && (f.monospaced == g.monospaced &&
        f.monospacedDigits == g.monospacedDigits))))) := rfl
  rw [hfields]
  change _ = ((f.family == g.family && (f.face == g.face && (f.traits == g.traits &&
      (f.monospaced == g.monospaced && f.monospacedDigits == g.monospacedDigits)))) && _)
  ac_rfl

instance : PartialEquivBEq TabStop := partialEquivBEq_of_parts _ _ beq_tabStop

instance : PartialEquivBEq ParagraphStyle := partialEquivBEq_of_parts _ _ beq_paragraphStyle

instance : PartialEquivBEq Font := partialEquivBEq_of_parts _ _ beq_font

namespace Key

instance (k : Key) : PartialEquivBEq k.Value :=
  match k with
  | font => inferInstanceAs (PartialEquivBEq Font)
  | foregroundColor => inferInstanceAs (PartialEquivBEq Color)
  | strikethrough => inferInstanceAs (PartialEquivBEq StrikeStyle)
  | link => inferInstanceAs (PartialEquivBEq String)
  | paragraphStyle => inferInstanceAs (PartialEquivBEq ParagraphStyle)
  | nestingDepth => inferInstanceAs (PartialEquivBEq Int)

/-- Every size and position in a value is a number. -/
def IsNumeric : (k : Key) → k.Value → Prop
  | font, f => f.size.isNaN = false
  | paragraphStyle, p =>
    (∀ t ∈ p.tabStops, t.location.isNaN = false) ∧ p.headIndent.isNaN = false
  | _, _ => True

theorem beq_self_of_isNumeric {k : Key} {v : k.Value} (h : k.IsNumeric v) : (v == v) = true := by
  cases k with
  | font => exact (beq_font v v).trans (by rw [beq_self_eq_true, Decimal.beq_self_of_isNaN h]; rfl)
  | paragraphStyle =>
    have hstops : (v.tabStops == v.tabStops) = true :=
      beq_list_iff_forall₂.mpr <| List.forall₂_same.mpr fun t ht => by
        rw [beq_tabStop, beq_self_eq_true, Decimal.beq_self_of_isNaN (h.1 t ht)]
        rfl
    exact (beq_paragraphStyle v v).trans (by rw [hstops, Decimal.beq_self_of_isNaN h.2]; rfl)
  | foregroundColor => exact beq_self_eq_true (α := Color) v
  | strikethrough => exact beq_self_eq_true (α := StrikeStyle) v
  | link => exact beq_self_eq_true (α := String) v
  | nestingDepth => exact beq_self_eq_true (α := Int) v

end Key

end RichText
