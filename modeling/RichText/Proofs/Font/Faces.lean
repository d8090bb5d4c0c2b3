import RichText.Backend.Standard
import RichText.Proofs.Decimal.Magnitude

/-! # Faces that are always at hand

Where no face is registered, every family and all traits are given a standard face, and no text is
too wide to be measured in it if its size is not enormous. -/

namespace RichText.Font

namespace StandardFace

theorem ofName?_name (f : StandardFace) : ofName? f.name = some f := by
  cases f <;> decide

/-- The widest glyphs are less than three times as wide as the point size. -/
theorem le_of_mem_widths (f : StandardFace) :
    ∀ w ∈ f.widths :: f.substitutes, ∀ block ∈ w, ∀ width ∈ block.2.toList, width ≤ 2048 := by
  cases f <;> decide +kernel

theorem advance_le (f : StandardFace) (c : Char) : f.advance c ≤ 2048 := by
  unfold advance
  cases hfound : (f.widths :: f.substitutes).findSome? (·.get? c) with
  | none => decide
  | some width =>
      obtain ⟨w, hw, hget⟩ := List.exists_of_findSome?_eq_some hfound
      obtain ⟨⟨first, widths⟩, hblock, hwidth⟩ := List.exists_of_findSome?_eq_some hget
      dsimp only at hwidth
      split at hwidth
      · have hmem := Array.mem_toList_iff.mpr (Array.mem_of_getElem? hwidth)
        exact f.le_of_mem_widths w hw _ hblock width hmem
      · cases hwidth

theorem foldr_advance_le (f : StandardFace) (cs : List Char) :
    cs.foldr (f.advance · + ·) 0 ≤ 2048 * cs.length := by
  induction cs with
  | nil => exact Nat.le_refl 0
  | cons c cs ih =>
      have hc := f.advance_le c
      rw [List.foldr_cons, List.length_cons]
      omega

/-- A text that fits into any memory is not too wide unless its size is enormous itself. -/
theorem within_measure (f : StandardFace) {text : String} {size : Float} {k : Int}
    (hlength : text.length < 2 ^ 64) (hsize : Decimal.Within k size) (hmin : -1000 ≤ k)
    (hmax : k ≤ 650) : Decimal.Within (k + 312) (f.measure text size) := by
  have hsum : text.toList.foldr (f.advance · + ·) 0 < 2 ^ 75 := by
    have hle := f.foldr_advance_le text.toList
    rw [String.length_toList] at hle
    omega
  have hthousandth : Decimal.Within (-62) 0.001 := by decide +kernel
  -- At size 1 the exponent is 205 at most; the factor for the size adds 107 and its own.
  have hunits := Decimal.within_mul (Decimal.within_ofNat hsum) hthousandth (by decide) (by decide)
  exact (Decimal.within_mul hunits hsize (by omega) (by omega)).mono (by omega)

end StandardFace

/-- The face that is found is the first of the family's own that there is, or else the fallback; the
last resort is never needed. -/
theorem value_findFace (family : String) (t : Traits) :
    (findFace {} family t).value =
      ((ownFaces family t).find? ({} : Catalogue).has).getD (fallbackFace t) := by
  have hfallback : ({} : Catalogue).has (fallbackFace t) = true := by
    change (StandardFace.ofName? (StandardFamily.helvetica.face t).name).isSome = true
    rw [StandardFace.ofName?_name]
    rfl
  have hfind : (ownFaces family t ++ [fallbackFace t]).find? ({} : Catalogue).has =
      some (((ownFaces family t).find? ({} : Catalogue).has).getD (fallbackFace t)) := by
    rw [List.find?_append, List.find?_cons_of_pos hfallback]
    cases (ownFaces family t).find? ({} : Catalogue).has <;> rfl
  unfold findFace
  dsimp only
  rw [hfind]
  dsimp only
  split <;> rfl

/-- Every family is given a standard face. -/
theorem exists_findFace_eq (family : String) (traits : Traits) :
    ∃ f : StandardFace, (findFace {} family traits).value = f.name := by
  rw [value_findFace]
  cases hfound : (ownFaces family traits).find? ({} : Catalogue).has with
  | none => exact ⟨StandardFamily.helvetica.face traits, rfl⟩
  | some face =>
      have hhas : ({} : Catalogue).has face = true := List.find?_some hfound
      obtain ⟨f, hf⟩ : ∃ f, StandardFace.ofName? face = some f :=
        Option.isSome_iff_exists.mp hhas
      have hname : f.name = face := by simpa using List.find?_some hf
      exact ⟨f, hname.symm⟩

end RichText.Font

namespace RichText.Backend

/-- In a standard face any text is measured, and nothing is reported. -/
theorem measure_standard [Font.FaceMetrics] (families : Families) {font : Font}
    {f : Font.StandardFace} (hface : font.face = f.name) (text : String) :
    (standard families).measure text font =
      pure (Font.FaceMetrics.width f text font.size) := by
  have hwidths : ({} : Font.Catalogue).widths? font.face = some f := by
    rw [hface]
    exact f.ofName?_name
  unfold standard ofFaces
  dsimp only
  rw [hwidths]

end RichText.Backend
