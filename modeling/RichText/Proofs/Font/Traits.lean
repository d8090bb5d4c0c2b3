import RichText.Backend.Standard

/-! # Adding traits

Traits add up like sets, and backends that find each face from family and traits alone add them to a
font in the same way. -/

namespace RichText

namespace Traits

theorem eq_iff (a b : Traits) : a = b ↔ a.bold = b.bold ∧ a.italic = b.italic := by
  cases a
  cases b
  simp

@[simp] theorem plain_bold : plain.bold = false := rfl

@[simp] theorem plain_italic : plain.italic = false := rfl

@[simp] theorem union_plain (a : Traits) : a ∪ plain = a := by
  simp [eq_iff]

theorem union_assoc (a b c : Traits) : a ∪ b ∪ c = a ∪ (b ∪ c) := by
  simp [eq_iff, Bool.or_assoc]

theorem union_eq_plain_iff (a b : Traits) : a ∪ b = plain ↔ a = plain ∧ b = plain := by
  simp only [eq_iff, union_bold, union_italic, plain_bold, plain_italic, Bool.or_eq_false_iff]
  exact and_and_and_comm

end Traits

namespace Backend

/-- A backend that adds traits to those of a font, gives it another size if there is one, finds its
face from family and traits, and changes nothing else. -/
def AddsTraits (backend : Backend) (face : String → Traits → String) : Prop :=
  ∀ (font : Font) (traits : Traits) (size : Option Float),
    (backend.withTraits font traits size).value =
      { font with
        face := face font.family (font.traits ∪ traits)
        traits := font.traits ∪ traits
        size := size.getD font.size }

/-- The fonts that a backend makes are regular: they have no traits, and the face that belongs to
their family. -/
def MakesRegular (backend : Backend) (face : String → Traits → String) : Prop :=
  ∀ (size : Float), ∀ make ∈
      [backend.systemFont, backend.monospacedFont, backend.monospacedDigitFont],
    (make size .regular).value.traits = .plain ∧
      (make size .regular).value.face = face (make size .regular).value.family .plain

variable (families : Families) (face : String → Traits → Logged String)
  (measure : String → Font → Logged Float)

theorem addsTraits_ofFaces :
    (ofFaces families face measure).AddsTraits fun family traits => (face family traits).value :=
  fun _ _ _ => rfl

theorem makesRegular_ofFaces :
    (ofFaces families face measure).MakesRegular
      fun family traits => (face family traits).value := by
  intro size make hmake
  simp only [List.mem_cons, List.not_mem_nil, or_false] at hmake
  rcases hmake with rfl | rfl | rfl <;> exact ⟨rfl, rfl⟩

end Backend

end RichText
