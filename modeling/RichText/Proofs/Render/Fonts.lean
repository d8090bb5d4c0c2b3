import RichText.Proofs.Font.Traits
import RichText.Proofs.Render.Runs

/-! # Fonts of a rendering

Each container changes the fonts of all runs inside it, one container after the other. What this
comes to can be read off the containers around a run in any order, but for the size, which the
outermost heading decides. -/

namespace RichText

namespace Container

def traits : Container → Traits
  | .strong | .heading _ => { bold := true }
  | .emphasis => { italic := true }
  | _ => .plain

def headingLevel? : Container → Option HeadingLevel
  | .heading level => some level
  | _ => none

/-- Headings add traits. -/
theorem headingLevel?_eq_none {c : Container} (h : c.traits = .plain) :
    c.headingLevel? = none := by
  cases c <;> simp_all [traits, headingLevel?, Traits.eq_iff]

theorem traits_bold_iff (c : Container) :
    c.traits.bold = true ↔ c.kind = .strong ∨ c.kind = .heading := by
  cases c <;> simp [traits, kind]

theorem traits_italic_iff (c : Container) : c.traits.italic = true ↔ c.kind = .emphasis := by
  cases c <;> simp [traits, kind]

end Container

namespace Piece

/-- The traits that the containers around a piece add. -/
def traits (p : Piece) : Traits :=
  ⟨p.within.any (·.traits.bold), p.within.any (·.traits.italic)⟩

theorem traits_eq_plain_iff (p : Piece) :
    p.traits = .plain ↔ ∀ c ∈ p.within, c.traits = .plain := by
  simp [traits, Traits.eq_iff, forall_and]

/-- The rank of the outermost heading around a piece. -/
def headingLevel? (p : Piece) : Option HeadingLevel := p.within.findSome? (·.headingLevel?)

theorem traits_inside (c : Container) (p : Piece) : (p.inside c).traits = p.traits ∪ c.traits := by
  simp [traits, inside, Traits.eq_iff, Bool.or_comm]

theorem traits_bold_iff (p : Piece) :
    p.traits.bold = true ↔ ∃ c ∈ p.within, c.kind = .strong ∨ c.kind = .heading := by
  simp [traits, Container.traits_bold_iff]

theorem traits_italic_iff (p : Piece) :
    p.traits.italic = true ↔ ∃ c ∈ p.within, c.kind = .emphasis := by
  simp [traits, Container.traits_italic_iff]

theorem headingLevel?_eq_none {p : Piece} (h : p.traits = .plain) : p.headingLevel? = none := by
  apply List.findSome?_eq_none_iff.mpr
  intro c hc
  exact Container.headingLevel?_eq_none (p.traits_eq_plain_iff.mp h c hc)

theorem headingLevel?_inside (c : Container) (p : Piece) :
    (p.inside c).headingLevel? = c.headingLevel?.or p.headingLevel? := by
  unfold headingLevel? inside
  rw [List.findSome?_cons]
  cases c.headingLevel? <;> rfl

end Piece

namespace Run

theorem font?_addTraits {backend : Backend} {face : String → Traits → String}
    (hb : backend.AddsTraits face) {run : Run} {font : Font} (hf : run.font? = some font)
    (traits : Traits) (size : Option Float) :
    (run.addTraits backend traits size).font? =
      some { font with
        face := face font.family (font.traits ∪ traits)
        traits := font.traits ∪ traits
        size := size.getD font.size } := by
  simp only [addTraits, hf]
  rw [hb]
  rfl

end Run

namespace Renderer

variable (r : Renderer)

/-- The font that a run starts with: that of code, that of numbers or that of body text. -/
def startFont (o : Origin) : Font :=
  let base := r.options.baseFontSize
  match o with
  | .code _ => (r.backend.monospacedFont (base - r.options.codeSizeDelta) .regular).value
  | .marker (.number _ _) _ => (r.backend.monospacedDigitFont base .regular).value
  | _ => (r.backend.systemFont base .regular).value

/-- The font of a piece, found from all containers around it at once. -/
def fontOf (face : String → Traits → String) (p : Piece) : Font :=
  let start := r.startFont p.origin
  { start with
    face := if p.traits = .plain then start.face else face start.family (start.traits ∪ p.traits)
    traits := start.traits ∪ p.traits
    size := (p.headingLevel?.map fun level => r.options.headingSize level.val).getD start.size }

/-- A piece with no traits added to it has the font that its run starts with. -/
theorem fontOf_of_plain {face : String → Traits → String} {p : Piece} (h : p.traits = .plain) :
    r.fontOf face p = r.startFont p.origin := by
  simp only [fontOf, h, Piece.headingLevel?_eq_none h, Traits.union_plain, if_true]
  rfl

/-- A container that adds no traits leaves the font as it is. -/
theorem fontOf_inside_of_plain {face : String → Traits → String} {c : Container} (p : Piece)
    (hc : c.traits = .plain) : r.fontOf face (p.inside c) = r.fontOf face p := by
  unfold fontOf
  rw [p.traits_inside, p.headingLevel?_inside, hc, Container.headingLevel?_eq_none hc,
    Traits.union_plain, Option.none_or]
  rfl

/-- A container that adds traits gives the font a new face, and a heading gives it its size. -/
theorem fontOf_inside {face : String → Traits → String} {c : Container} (p : Piece)
    (hc : c.traits ≠ .plain) :
    r.fontOf face (p.inside c) =
      { r.fontOf face p with
        face := face (r.fontOf face p).family ((r.fontOf face p).traits ∪ c.traits)
        traits := (r.fontOf face p).traits ∪ c.traits
        size := (c.headingLevel?.map fun level => r.options.headingSize level.val).getD
          (r.fontOf face p).size } := by
  have hplain : p.traits ∪ c.traits ≠ .plain :=
    fun h => hc ((Traits.union_eq_plain_iff _ _).mp h).2
  unfold fontOf
  rw [p.traits_inside, p.headingLevel?_inside]
  cases hlevel : c.headingLevel? <;> simp [hplain, Traits.union_assoc, Piece.inside]

/-- The containers around a run change its font to the one found from all of them at once. -/
theorem font?_runOf {face : String → Traits → String} (hb : r.backend.AddsTraits face)
    (p : Piece) : (r.runOf p).font? = some (r.fontOf face p) := by
  induction p with
  | bare o =>
      rw [runOf_bare, r.fontOf_of_plain rfl]
      cases o with
      | marker m i => cases m <;> rfl
      | _ => rfl
  | inside c p ih =>
      rw [runOf_inside]
      cases c with
      | emphasis | strong | heading level =>
          -- The three containers that add traits differ only in traits and size.
          rw [r.fontOf_inside _ (by simp [Container.traits, Traits.eq_iff])]
          exact Run.font?_addTraits hb ih _ _
      | link destination title =>
          rw [r.fontOf_inside_of_plain _ rfl, ← ih]
          simp only [dress]
          cases (r.linkTarget destination).value <;> rfl
      | _ =>
          rw [r.fontOf_inside_of_plain _ rfl, ← ih]
          rfl

/-- Regular fonts are what runs start with, if the backend makes such fonts. -/
theorem startFont_regular {face : String → Traits → String} (hr : r.backend.MakesRegular face)
    (o : Origin) :
    (r.startFont o).traits = .plain ∧
      (r.startFont o).face = face (r.startFont o).family .plain := by
  cases o with
  | code s => exact hr _ _ (by simp)
  | marker m i =>
      cases m with
      | number depth children => exact hr _ _ (by simp)
      | _ => exact hr _ r.backend.systemFont (by simp)
  | _ => exact hr _ r.backend.systemFont (by simp)

/-! ## The fonts of a node -/

/-- What is known of the font of a piece. Where its run comes from gives the font to start with, and
the containers around it the traits that are added and the size. The face is the one that belongs to
the family and all traits, unless the run starts with some other face and nothing is added. If the
backend makes regular fonts, the containers alone decide the traits and the traits the face. -/
structure FontOf (face : String → Traits → String) (p : Piece) (f : Font) : Prop where
  family_eq : f.family = (r.startFont p.origin).family
  monospaced_eq : f.monospaced = (r.startFont p.origin).monospaced
  monospacedDigits_eq : f.monospacedDigits = (r.startFont p.origin).monospacedDigits
  size_eq : f.size = match p.within.findSome? (·.headingLevel?) with
    | some level => r.options.headingBaseSize - r.options.headingSizeStep * Float.ofNat level.val
    | none => (r.startFont p.origin).size
  bold_iff : f.traits.bold = true ↔ (r.startFont p.origin).traits.bold = true ∨
    ∃ c ∈ p.within, c.kind = .strong ∨ c.kind = .heading
  italic_iff : f.traits.italic = true ↔ (r.startFont p.origin).traits.italic = true ∨
    ∃ c ∈ p.within, c.kind = .emphasis
  face_eq : f.face = face f.family f.traits ∨
    f = r.startFont p.origin ∧ ∀ c ∈ p.within, c.traits = .plain
  regular : r.backend.MakesRegular face →
    (f.traits.bold = true ↔ ∃ c ∈ p.within, c.kind = .strong ∨ c.kind = .heading) ∧
      (f.traits.italic = true ↔ ∃ c ∈ p.within, c.kind = .emphasis) ∧
        f.face = face f.family f.traits

theorem fontOf_fontOf (face : String → Traits → String) (p : Piece) :
    r.FontOf face p (r.fontOf face p) where
  family_eq := rfl
  monospaced_eq := rfl
  monospacedDigits_eq := rfl
  size_eq := by
    simp only [fontOf, Piece.headingLevel?]
    cases p.within.findSome? (·.headingLevel?) <;> rfl
  bold_iff := by simp [fontOf, p.traits_bold_iff]
  italic_iff := by simp [fontOf, p.traits_italic_iff]
  face_eq := by
    by_cases hplain : p.traits = .plain
    · right
      exact ⟨r.fontOf_of_plain hplain, p.traits_eq_plain_iff.mp hplain⟩
    · left
      simp [fontOf, hplain]
  regular := by
    intro hr
    obtain ⟨htraits, hface⟩ := r.startFont_regular hr p.origin
    refine ⟨by simp [fontOf, htraits, p.traits_bold_iff],
      by simp [fontOf, htraits, p.traits_italic_iff], ?_⟩
    simp only [fontOf]
    split
    · rename_i hplain
      rw [hplain, hface, htraits, Traits.union_plain]
    · rfl

/-- The font of every run of a node is determined by where the run comes from and by the containers
around it in the node. -/
theorem fonts_render {α : Type} {face : String → Traits → String}
    (hb : r.backend.AddsTraits face) (tree : Node α) (path : List Nat) {n : Node Place}
    {out : StyledText} (hn : tree.placed.at? path = some n) (h : (r.render n).result = .ok out) :
    List.Forall₂ (fun p run => ∃ f, run.font? = some f ∧ r.FontOf face p f)
      (tree.piecesAt path) out.runs := by
  apply (shows_render hn h).forall₂
  intro p _ _
  exact ⟨r.fontOf face p, r.font?_runOf hb p, r.fontOf_fontOf face p⟩

end Renderer

/-- A heading with strong emphasis, and with a heading of lower rank inside it. -/
def Tree.nestedHeading : Tree :=
  .branch (.heading { val := 2 }) [
    .text "a",
    .branch .strong [.branch .emphasis [.text "b"]],
    .branch (.heading { val := 5 }) [.leaf (.inlineCode "c")]]

/-- The code in the inner heading is set in the size of the outer one. -/
theorem fonts_render_nestedHeading :
    Backend.standard.AddsTraits (fun family traits => (Font.findFace {} family traits).value) ∧
      Tree.nestedHeading.placed.at? [] = some Tree.nestedHeading.placed ∧
      ∃ out f,
        ((Renderer.mk {} .standard).render Tree.nestedHeading.placed).result = .ok out ∧
        out.runs[2]?.bind (·.font?) = some f ∧
        f.size = 28.0 - 2.0 * Float.ofNat 2 ∧ f.traits = { bold := true } ∧
        f.face = "Courier-Bold" := by
  have hb := Backend.addsTraits_ofFaces ⟨"Helvetica", "Courier"⟩ (Font.findFace {})
    Backend.standard.measure
  obtain ⟨out, hout⟩ := Traced.exists_result_eq_ok
    (x := (Renderer.mk {} .standard).render Tree.nestedHeading.placed) (by decide +kernel)
  have hfonts := Renderer.fonts_render _ hb Tree.nestedHeading [] rfl hout
  have hpiece : (Tree.nestedHeading.piecesAt [])[2]? =
      some ⟨.code "c", [.heading { val := 2 }, .heading { val := 5 }]⟩ := rfl
  obtain ⟨run, hrun, f, hf, hfont⟩ := Renderer.exists_run hfonts hpiece
  obtain ⟨hbold, hitalic, hface⟩ := hfont.regular (Backend.makesRegular_ofFaces _ _ _)
  have htraits : f.traits = { bold := true } := by
    apply (Traits.eq_iff _ _).mpr
    refine ⟨hbold.mpr ⟨_, List.mem_cons_self, .inr rfl⟩, ?_⟩
    apply eq_false_of_ne_true
    intro h
    exact absurd (hitalic.mp h) (by decide)
  rw [hfont.family_eq, htraits] at hface
  refine ⟨hb, rfl, out, f, hout, ?_, hfont.size_eq, htraits, hface⟩
  rw [hrun, Option.bind_some, hf]

end RichText
