import RichText.Proofs.Decimal.Arithmetic
import RichText.Proofs.Font.Requests

/-! # Fonts of one pitch

A font for code is flagged as monospaced whatever its family is called and whichever face is found.
Its printable characters are equally wide if and only if that is a Courier face, which takes the
family Courier or, as long as no trait is asked for, a family that is named like a Courier face. -/

namespace RichText

def isPrintableAscii (c : Char) : Bool := 0x20 ≤ c.toNat && c.toNat ≤ 0x7e

/-- Texts of as many printable characters are equally wide in a font. -/
def Backend.IsFixedPitch (b : Backend) (font : Font) : Prop :=
  ∀ s t : String, s.toList.all isPrintableAscii = true → t.toList.all isPrintableAscii = true →
    s.length = t.length → (b.measure s font).value = (b.measure t font).value

namespace Font

namespace StandardFace

def isCourier : StandardFace → Bool
  | courier | courierBold | courierOblique | courierBoldOblique => true
  | _ => false

variable {f : StandardFace}

theorem widths_of_isCourier (hf : f.isCourier = true) : f.widths = Metrics.courier := by
  cases f <;> first
    | rfl
    | cases hf

theorem advance_of_isCourier (hf : f.isCourier = true) {c : Char}
    (hc : isPrintableAscii c = true) : f.advance c = 600 := by
  have hrange : 0x20 ≤ c.toNat ∧ c.toNat ≤ 0x7e := by simpa [isPrintableAscii] using hc
  have hget : f.widths.get? c = some 600 := by
    rw [widths_of_isCourier hf, Widths.get?, Metrics.courier, List.findSome?_cons]
    dsimp only
    rw [if_pos hrange.1, Array.getElem?_replicate, if_pos (by omega)]
  rw [advance, List.findSome?_cons, hget]
  rfl

theorem foldr_advance_of_isCourier (hf : f.isCourier = true) {cs : List Char}
    (hcs : cs.all isPrintableAscii = true) :
    cs.foldr (f.advance · + ·) 0 = 600 * cs.length := by
  induction cs with
  | nil => rfl
  | cons c cs ih =>
      rw [List.all_cons, Bool.and_eq_true] at hcs
      rw [List.foldr_cons, advance_of_isCourier hf hcs.1, ih hcs.2, List.length_cons]
      omega

theorem measure_of_isCourier (hf : f.isCourier = true) {s t : String}
    (hs : s.toList.all isPrintableAscii = true) (ht : t.toList.all isPrintableAscii = true)
    (hlength : s.length = t.length) (size : Float) : f.measure s size = f.measure t size := by
  rw [measure, measure, foldr_advance_of_isCourier hf hs, foldr_advance_of_isCourier hf ht,
    String.length_toList, String.length_toList, hlength]

/-- In every other face three spaces are at most as wide as the point size, and three capitals more
than twice as wide. -/
theorem measure_ne_of_not_isCourier (hf : f.isCourier = false) {size : Float}
    (hsize : size.isFinite = true) (hzero : (size == 0) = false) :
    f.measure "   " size ≠ f.measure "WWW" size := by
  have hwidths : f.isCourier = false →
      Decimal.Between 0 1 (Float.ofNat ("   ".toList.foldr (f.advance · + ·) 0) * 0.001) ∧
      Decimal.Between 2 3 (Float.ofNat ("WWW".toList.foldr (f.advance · + ·) 0) * 0.001) := by
    cases f <;> decide +kernel
  exact Decimal.mul_ne_mul_of_between (hwidths hf).1 (hwidths hf).2 hsize hzero

/-- Only the name Courier becomes that of a Courier face by what is added for traits. Without traits
there need be nothing to add. -/
theorem eq_of_isCourier_of_suffix (hf : f.isCourier = true) {t : Traits} {suffix : String}
    (hsuffix : suffix ∈ faceSuffixes t) (hname : suffix.toList <:+ f.name.toList) :
    (t = .plain ∧ suffix = "") ∨ f.name.toList = "Courier".toList ++ suffix.toList := by
  have hall : ∀ bold italic, ∀ suffix ∈ faceSuffixes ⟨bold, italic⟩,
      suffix.toList <:+ f.name.toList → f.isCourier = true →
        (Traits.mk bold italic = .plain ∧ suffix = "") ∨
          f.name.toList = "Courier".toList ++ suffix.toList := by
    cases f <;> decide
  exact hall t.bold t.italic suffix hsuffix hname hf

end StandardFace

/-- What a family is called for which a Courier face is found. -/
def NamesCourier (family : String) (t : Traits) : Prop :=
  family = "Courier" ∨ t = .plain ∧ ∃ f : StandardFace, f.isCourier = true ∧ family = f.name

theorem namesCourier_of_mem_ownFaces {family : String} {t : Traits} {f : StandardFace}
    (hf : f.isCourier = true) (h : f.name ∈ ownFaces family t) : NamesCourier family t := by
  unfold ownFaces at h
  cases hfamily : StandardFamily.ofName? family with
  | some known =>
      rw [hfamily] at h
      have hface : some f = some (known.face t) := by
        rw [← f.ofName?_name, List.mem_singleton.mp h, StandardFace.ofName?_name]
      have hname : known.name = family := by simpa using List.find?_some hfamily
      cases hface
      left
      rw [← hname]
      obtain ⟨bold, italic⟩ := t
      cases known with
      | courier => rfl
      | helvetica | times => cases bold <;> cases italic <;> cases hf
  | none =>
      rw [hfamily] at h
      obtain ⟨suffix, hsuffix, hname⟩ := List.mem_map.mp h
      have hparts : f.name.toList = family.toList ++ suffix.toList := by
        rw [← hname, String.toList_append]
      have hend : suffix.toList <:+ f.name.toList := hparts ▸ List.suffix_append _ _
      rcases StandardFace.eq_of_isCourier_of_suffix hf hsuffix hend with ⟨rfl, rfl⟩ | hcourier
      · exact .inr ⟨rfl, f, hf, by rw [← hname, String.append_empty]⟩
      · left
        exact String.toList_inj.mp (List.append_cancel_right (hparts.symm.trans hcourier))

/-- A Courier face is found for the families that are named like one, and for no others: the fallback
is another face. -/
theorem exists_isCourier_findFace_iff (family : String) (t : Traits) :
    (∃ f : StandardFace, f.isCourier = true ∧ (findFace {} family t).value = f.name) ↔
      NamesCourier family t := by
  rw [value_findFace]
  constructor
  · rintro ⟨f, hf, hname⟩
    cases hfound : (ownFaces family t).find? ({} : Catalogue).has with
    | some face =>
        rw [hfound, Option.getD_some] at hname
        subst hname
        exact namesCourier_of_mem_ownFaces hf (List.mem_of_find?_eq_some hfound)
    | none =>
        rw [hfound, Option.getD_none, fallbackFace] at hname
        have hface : some f = some (StandardFamily.helvetica.face t) := by
          rw [← f.ofName?_name, ← hname, StandardFace.ofName?_name]
        obtain ⟨bold, italic⟩ := t
        cases hface
        cases bold <;> cases italic <;> cases hf
  · rintro (rfl | ⟨rfl, f, hf, rfl⟩)
    · refine ⟨StandardFamily.courier.face t, ?_, ?_⟩ <;> obtain ⟨bold, italic⟩ := t <;>
        cases bold <;> cases italic <;> decide
    · have hfound : f.isCourier = true →
          ((ownFaces f.name .plain).find? ({} : Catalogue).has).getD (fallbackFace .plain) =
            f.name := by
        cases f <;> decide
      exact ⟨f, hf, hfound hf⟩

end Font

namespace Backend

open Font (NamesCourier Role Restyling StandardFace)

theorem value_measure_standard (families : Families) {font : Font} {f : StandardFace}
    (hface : font.face = f.name) (text : String) :
    ((standard families).measure text font).value = f.measure text font.size := by
  rw [measure_standard families hface]
  rfl

theorem isFixedPitch_of_isCourier (families : Families) {font : Font} {f : StandardFace}
    (hface : font.face = f.name) (hf : f.isCourier = true) :
    (standard families).IsFixedPitch font := by
  intro s t hs ht hlength
  rw [value_measure_standard families hface, value_measure_standard families hface]
  exact StandardFace.measure_of_isCourier hf hs ht hlength font.size

theorem not_isFixedPitch_of_not_isCourier (families : Families) {font : Font} {f : StandardFace}
    (hface : font.face = f.name) (hf : f.isCourier = false) (hsize : font.size.isFinite = true)
    (hzero : (font.size == 0) = false) : ¬ (standard families).IsFixedPitch font := by
  intro heven
  have hsame := heven "   " "WWW" (by decide) (by decide) rfl
  rw [value_measure_standard families hface, value_measure_standard families hface] at hsame
  exact StandardFace.measure_ne_of_not_isCourier hf hsize hzero hsame

/-- A font that is flagged as monospaced is one for code, and a Courier face is found for it if and
only if the family for code is called like one. Then texts of as many printable characters are equally
wide in it, and otherwise they are not, unless its size is zero, infinite or no number. -/
theorem isFixedPitch_of_monospaced (families : Families) (role : Role) (size : Float)
    (weight : Weight) (steps : List Restyling) {font : Font}
    (hfont : ((standard families).derive role size weight steps).value = font)
    (hflag : font.monospaced = true) :
    (NamesCourier families.code font.traits → (standard families).IsFixedPitch font) ∧
    (font.size.isFinite = true → (font.size == 0) = false →
      (standard families).IsFixedPitch font → NamesCourier families.code font.traits) := by
  rw [value_derive] at hfont
  have hrole : role = .code := by
    rw [← hfont] at hflag
    simpa using hflag
  have hface : font.face = (Font.findFace {} families.code font.traits).value := by
    rw [← hfont, hrole]
    rfl
  rw [← Font.exists_isCourier_findFace_iff, ← hface]
  constructor
  · rintro ⟨f, hf, hname⟩
    exact isFixedPitch_of_isCourier families hname hf
  · intro hsize hzero heven
    obtain ⟨f, hname⟩ := Font.exists_findFace_eq families.code font.traits
    rw [← hface] at hname
    refine ⟨f, ?_, hname⟩
    by_contra hf
    exact not_isFixedPitch_of_not_isCourier families hname (Bool.eq_false_of_not_eq_true hf) hsize
      hzero heven

/-- Code in a family that is named like a bold face: a request for what the face shows already leads
to another face. -/
theorem isFixedPitch_of_monospaced_faceName :
    let b := standard ⟨"Helvetica", "Courier-Bold"⟩
    let plain := (b.derive .code 12.0 .regular []).value
    let bold := (b.derive .code 12.0 .regular [⟨{ bold := true }, none⟩]).value
    (plain.monospaced = true ∧ b.IsFixedPitch plain) ∧
      bold.monospaced = true ∧ ¬ b.IsFixedPitch bold := by
  intro b plain bold
  have hplain : plain.monospaced = true := by decide +kernel
  have hbold : bold.monospaced = true := by decide +kernel
  obtain ⟨heven, -⟩ := isFixedPitch_of_monospaced _ .code 12.0 .regular [] rfl hplain
  obtain ⟨-, hname⟩ := isFixedPitch_of_monospaced _ .code 12.0 .regular _ rfl hbold
  refine ⟨⟨hplain, heven (.inr ⟨rfl, .courierBold, rfl, rfl⟩)⟩, hbold, fun hsame => ?_⟩
  rcases hname (by decide +kernel) (by decide +kernel) hsame with hcourier | ⟨htraits, -⟩
  · exact absurd hcourier (by decide)
  · exact absurd htraits (by decide +kernel)

/-- Code in a family of letters that differ in width is flagged as monospaced all the same. -/
theorem not_isFixedPitch_helvetica :
    let b := standard ⟨"Helvetica", "Helvetica"⟩
    let font := (b.monospacedFont 10.0 .regular).value
    font.monospaced = true ∧ ¬ b.IsFixedPitch font := by
  intro b font
  refine ⟨by decide +kernel, fun heven => ?_⟩
  have hsame := heven "i" "W" (by decide) (by decide) rfl
  revert hsame
  decide +kernel

end Backend

end RichText
