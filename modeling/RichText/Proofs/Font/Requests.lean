import Mathlib.Tactic.Choose
import RichText.Proofs.Font.Faces
import RichText.Proofs.Font.Traits

/-! # Fonts on request

A font is asked for in one of three roles and then with more traits, any number of times. What the
standard backend gives in the end depends on the role's family, on the traits together and on the
last size. Its face is a standard one and shows every trait, whatever the family. -/

namespace RichText

def Traits.unionAll (ts : List Traits) : Traits := ⟨ts.any (·.bold), ts.any (·.italic)⟩

namespace Traits

@[simp] theorem unionAll_nil : unionAll [] = plain := rfl

@[simp] theorem unionAll_cons (t : Traits) (ts : List Traits) :
    unionAll (t :: ts) = t ∪ unionAll ts := rfl

/-- Neither order nor repetition counts. -/
theorem unionAll_congr {ts us : List Traits} (h : ∀ t, t ∈ ts ↔ t ∈ us) :
    unionAll ts = unionAll us := by
  have hany : ∀ p : Traits → Bool, ts.any p = us.any p := by
    intro p
    rw [Bool.eq_iff_iff, List.any_eq_true, List.any_eq_true]
    exact exists_congr fun t => and_congr_left' (h t)
  rw [unionAll, hany, hany]
  rfl

end Traits

namespace Font

namespace StandardFace

/-- The traits that can be seen in a face. -/
def traits : StandardFace → Traits
  | courierBold | helveticaBold | timesBold => { bold := true }
  | courierOblique | helveticaOblique | timesItalic => { italic := true }
  | courierBoldOblique | helveticaBoldOblique | timesBoldItalic => { bold := true, italic := true }
  | courier | helvetica | timesRoman | symbol | zapfDingbats => .plain

/-- Each of some traits can be seen in a face. -/
structure Shows (f : StandardFace) (t : Traits) : Prop where
  bold : t.bold = true → f.traits.bold = true
  italic : t.italic = true → f.traits.italic = true

instance (f : StandardFace) (t : Traits) : Decidable (f.Shows t) :=
  decidable_of_iff ((t.bold = true → f.traits.bold = true) ∧
    (t.italic = true → f.traits.italic = true)) ⟨fun h => ⟨h.1, h.2⟩, fun h => ⟨h.1, h.2⟩⟩

theorem shows_face (family : StandardFamily) (t : Traits) : (family.face t).Shows t := by
  obtain ⟨bold, italic⟩ := t
  cases family <;> cases bold <;> cases italic <;> decide

/-- The end of a face's name tells its traits. -/
theorem shows_of_suffix (f : StandardFace) {t : Traits} {suffix : String}
    (hsuffix : suffix ∈ faceSuffixes t) (hname : suffix.toList <:+ f.name.toList) : f.Shows t := by
  have hall : ∀ bold italic, ∀ suffix ∈ faceSuffixes ⟨bold, italic⟩,
      suffix.toList <:+ f.name.toList → f.Shows ⟨bold, italic⟩ := by
    cases f <;> decide
  exact hall t.bold t.italic suffix hsuffix hname

end StandardFace

/-- A standard face that a family has of its own shows the traits it is taken for, even if the
family is named like a face. -/
theorem shows_of_mem_ownFaces {family : String} {t : Traits} {f : StandardFace}
    (h : f.name ∈ ownFaces family t) : f.Shows t := by
  unfold ownFaces at h
  cases hfamily : StandardFamily.ofName? family with
  | some known =>
      rw [hfamily] at h
      have hface : f.name = (known.face t).name := List.mem_singleton.mp h
      have hsame : some f = some (known.face t) := by
        rw [← f.ofName?_name, hface, StandardFace.ofName?_name]
      cases hsame
      exact StandardFace.shows_face known t
  | none =>
      rw [hfamily] at h
      obtain ⟨suffix, hsuffix, hname⟩ := List.mem_map.mp h
      refine f.shows_of_suffix hsuffix ?_
      rw [← hname, String.toList_append]
      exact List.suffix_append _ _

/-- The face found for a family and some traits is a standard face that shows them. A family without
such a face borrows one that there is, so that the last resort is never needed. -/
theorem exists_findFace_shows (family : String) (t : Traits) :
    ∃ f : StandardFace, (findFace {} family t).value = f.name ∧ f.Shows t := by
  obtain ⟨f, hf⟩ := exists_findFace_eq family t
  refine ⟨f, hf, ?_⟩
  rw [value_findFace] at hf
  cases hfound : (ownFaces family t).find? ({} : Catalogue).has with
  | none =>
      rw [hfound, Option.getD_none, fallbackFace] at hf
      have hsame : some f = some (StandardFamily.helvetica.face t) := by
        rw [← f.ofName?_name, ← hf, StandardFace.ofName?_name]
      cases hsame
      exact StandardFace.shows_face _ t
  | some face =>
      rw [hfound, Option.getD_some] at hf
      subst hf
      exact shows_of_mem_ownFaces (List.mem_of_find?_eq_some hfound)

/-! ## Requests -/

/-- What a font is asked for. -/
inductive Role
  | body
  | code
  | digits
deriving DecidableEq

def Role.family (families : Families) : Role → String
  | .body | .digits => families.body
  | .code => families.code

/-- A request for more traits and perhaps another size. -/
structure Restyling where
  traits : Traits
  size : Option Float := none

end Font

namespace Backend

open Font (FaceMetrics Role Restyling StandardFace)

def request (b : Backend) : Role → (size : Float) → Weight → Logged Font
  | .body => b.systemFont
  | .code => b.monospacedFont
  | .digits => b.monospacedDigitFont

/-- The font that a sequence of requests for traits leads to. -/
def restyle (b : Backend) (font : Font) (steps : List Restyling) : Logged Font :=
  steps.foldlM (fun font step => b.withTraits font step.traits step.size) font

/-- The font that a backend makes for a role and then restyles. -/
def derive (b : Backend) (role : Role) (size : Float) (weight : Weight)
    (steps : List Restyling) : Logged Font := do
  b.restyle (← b.request role size weight) steps

/-- Requests for traits add up; the last size that is asked for stays. -/
theorem value_restyle {b : Backend} {face : String → Traits → String} (hb : b.AddsTraits face)
    (font : Font) (hface : font.face = face font.family font.traits) (steps : List Restyling) :
    (b.restyle font steps).value =
      { font with
        face := face font.family (font.traits ∪ .unionAll (steps.map (·.traits)))
        traits := font.traits ∪ .unionAll (steps.map (·.traits))
        size := (steps.filterMap (·.size)).getLast?.getD font.size } := by
  induction steps generalizing font with
  | nil =>
      rw [List.map_nil, Traits.unionAll_nil, Traits.union_plain, ← hface]
      rfl
  | cons step steps ih =>
      have hstep : (b.restyle font (step :: steps)).value =
          (b.restyle (b.withTraits font step.traits step.size).value steps).value := rfl
      -- The face after a request is looked up for all traits, whatever it was before.
      rw [hstep, hb, ih _ rfl]
      obtain ⟨t, size⟩ := step
      cases size <;> simp [Traits.union_assoc, List.getLast?_cons]

/-- The font for a role after some requests: its face is found from the role's family and from all
traits together. -/
theorem value_derive [FaceMetrics] (families : Families) (role : Role) (size : Float) (weight : Weight)
    (steps : List Restyling) :
    ((standard families).derive role size weight steps).value =
      { family := role.family families
        face := (Font.findFace {} (role.family families)
          (weight.traits ∪ .unionAll (steps.map Restyling.traits))).value
        size := (steps.filterMap Restyling.size).getLast?.getD size
        traits := weight.traits ∪ .unionAll (steps.map Restyling.traits)
        monospaced := role = .code
        monospacedDigits := role = .digits } := by
  have hb : (standard families).AddsTraits fun family t => (Font.findFace {} family t).value :=
    addsTraits_ofFaces families (Font.findFace {}) _
  change ((standard families).restyle _ steps).value = _
  rw [value_restyle hb]
  · cases role <;> rfl
  · cases role <;> rfl

/-- What is known of a font that the standard backend made for a role and then restyled, if `face`
says which face belongs to a family and some traits. -/
structure Derived [FaceMetrics] (face : String → Traits → StandardFace) (families : Families)
    (role : Role) (size : Float) (weight : Weight) (steps : List Restyling) (font : Font) :
    Prop where
  family_eq : font.family = role.family families
  traits_eq : font.traits = weight.traits ∪ .unionAll (steps.map (·.traits))
  face_eq : font.face = (face font.family font.traits).name
  shows : (face font.family font.traits).Shows font.traits
  measure_eq : ∀ text, (standard families).measure text font =
    pure (FaceMetrics.width (face font.family font.traits) text font.size)
  size_eq : font.size = (steps.filterMap (·.size)).getLast?.getD size
  monospaced_iff : font.monospaced = true ↔ role = .code
  monospacedDigits_iff : font.monospacedDigits = true ↔ role = .digits

/-- Whatever the families are called, the face of a font is a standard face that depends on its
family and all its traits alone, can be measured, and shows every trait. So neither the order nor
the repetition of requests counts for the face. The size is the last one asked for, and family and
flags stay. -/
theorem derived_standard [FaceMetrics] :
    ∃ face : String → Traits → StandardFace,
      (∀ families role size weight steps,
        Derived face families role size weight steps
          ((standard families).derive role size weight steps).value) ∧
      ∀ families role size size' weight steps steps',
        (∀ t, t ∈ steps.map Restyling.traits ↔ t ∈ steps'.map Restyling.traits) →
        ((standard families).derive role size weight steps).value.face =
          ((standard families).derive role size' weight steps').value.face := by
  choose face hface hshows using Font.exists_findFace_shows
  have hvalue : ∀ families role size weight steps,
      ((standard families).derive role size weight steps).value =
        { family := role.family families
          face := (face (role.family families)
            (weight.traits ∪ .unionAll (steps.map Restyling.traits))).name
          size := (steps.filterMap Restyling.size).getLast?.getD size
          traits := weight.traits ∪ .unionAll (steps.map Restyling.traits)
          monospaced := role = .code
          monospacedDigits := role = .digits } := by
    intro families role size weight steps
    rw [value_derive, hface]
  refine ⟨face, ?_, ?_⟩
  · intro families role size weight steps
    rw [hvalue]
    refine ⟨rfl, rfl, rfl, hshows _ _, ?_, rfl, by simp, by simp⟩
    intro text
    exact measure_standard families rfl text
  · intro families role size size' weight steps steps' hsame
    rw [hvalue, hvalue, Traits.unionAll_congr hsame]

end Backend

/-- Code in a family that is named like a bold face, made italic, then bold and italic in another
size: Helvetica lends a face with both traits, as it does when the requests come the other way
round. -/
theorem Backend.derived_standard_faceName :
    let twoSteps : List Font.Restyling :=
      [⟨{ italic := true }, none⟩, ⟨{ bold := true }, some 9.0⟩, ⟨{ italic := true }, none⟩]
    let otherSteps : List Font.Restyling := [⟨{ bold := true }, none⟩, ⟨{ italic := true }, none⟩]
    let b := Backend.standard ⟨"", "Times-Bold"⟩
    (∀ t, t ∈ twoSteps.map Font.Restyling.traits ↔ t ∈ otherSteps.map Font.Restyling.traits) ∧
      (b.derive .code 12.0 .regular twoSteps).value.face =
        (b.derive .code 14.0 .regular otherSteps).value.face ∧
      (b.derive .code 12.0 .regular twoSteps).value.size = 9.0 := by
  intro twoSteps otherSteps b
  obtain ⟨face, hderived, hface⟩ := Backend.derived_standard
  have hsame : ∀ t, t ∈ twoSteps.map Font.Restyling.traits ↔
      t ∈ otherSteps.map Font.Restyling.traits := by
    intro t
    simp only [twoSteps, otherSteps, List.map_cons, List.map_nil, List.mem_cons, List.not_mem_nil,
      or_false]
    grind
  exact ⟨hsame, hface _ .code 12.0 14.0 .regular _ _ hsame,
    (hderived _ .code 12.0 .regular twoSteps).size_eq⟩

end RichText
