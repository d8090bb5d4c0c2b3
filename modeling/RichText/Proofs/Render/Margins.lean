import RichText.Backend.Fixed
import RichText.Proofs.Render.Attributes

/-! # Margins of a rendering

Paragraph styles and nesting depths are given to markers only, and nothing that encloses a marker
changes them. The depth of a marker is the number of lists, or of quotes, strictly above the list or
quote it belongs to, those above the rendered node included. -/

namespace RichText

namespace Mark

def depth : Mark → Nat
  | .bullet depth | .number depth _ | .quote depth => depth

/-- The kinds that count for the depth of a marker: lists for the markers of lists, and quotes for
those of quotes. -/
def counts : Mark → Kind → Bool
  | .quote _ => (· = .blockQuote)
  | _ => Kind.isList

/-- The depth that a marker of a container in some scope carries. -/
def depthIn (s : Scope) : Mark → Nat
  | .quote _ => s.quotes
  | _ => s.lists

theorem depthIn_below (m : Mark) (s : Scope) (kind : Kind) (followed : Bool) :
    m.depthIn (s.below kind followed) = m.depthIn s + if m.counts kind then 1 else 0 := by
  cases m <;> simp only [depthIn, counts, Scope.below, decide_eq_true_eq] <;> split <;> simp_all

end Mark

namespace Container

/-- The markers of a container count containers like itself, as they stand above it. -/
theorem counts_mark? {c : Container} {s : Scope} {children : Nat} {m : Mark}
    (h : c.mark? s children = some m) : m.counts c.kind = true ∧ m.depth = m.depthIn s := by
  cases c <;> cases h <;> exact ⟨rfl, rfl⟩

end Container

namespace Node

variable {α : Type}

/-- The innermost container around a marker is its own, and its depth counts those around that. -/
theorem within_marker {n : Node α} {s : Scope} {p : Piece} {m : Mark} {i : Nat}
    (hp : p ∈ n.pieces s) (hm : p.origin = .marker m i) :
    ∃ outer owner, p.within = outer ++ [owner] ∧ m.counts owner.kind = true ∧
      m.depth = m.depthIn s + (outer.map (·.kind)).countP m.counts := by
  induction n generalizing s p with
  | leaf mark l =>
      rcases List.mem_append.mp hp with hp | hp
      · exact (Leaf.origin_pieces hp m i hm).elim
      · exact (Scope.origin_gap hp m i hm).elim
  | branch mark c ns ih =>
      rcases List.mem_append.mp hp with hp | hp
      · obtain ⟨q, hq, rfl⟩ := List.mem_map.mp hp
        rcases mem_piecesAll hq with ⟨j, hq⟩ | ⟨n, hn, followed, hq⟩
        · obtain ⟨m', hmark, rfl⟩ := Mark.mem_pieces_iff.mp hq
          cases hm
          obtain ⟨hcounts, hdepth⟩ := Container.counts_mark? hmark
          exact ⟨[], c, rfl, hcounts, hdepth⟩
        · obtain ⟨outer, owner, hwithin, hcounts, hdepth⟩ := ih n hn hq hm
          refine ⟨c :: outer, owner, by simp [Piece.inside, hwithin], hcounts, ?_⟩
          rw [hdepth, Mark.depthIn_below, List.map_cons, List.countP_cons]
          omega
      · exact (Scope.origin_gap hp m i hm).elim

/-- The depth of a marker in a tree counts all that is above its own container, on the way down to
the rendered node and below. -/
theorem depth_marker {tree : Node α} {path : List Nat} {p : Piece} {m : Mark} {i : Nat}
    (hp : p ∈ tree.piecesAt path) (hm : p.origin = .marker m i) :
    ∃ outer owner, p.within = outer ++ [owner] ∧ m.counts owner.kind = true ∧
      m.depth = (tree.kindsAbove path ++ outer.map (·.kind)).countP m.counts := by
  unfold piecesAt at hp
  cases hscoped : tree.scoped? {} path with
  | none => simp [hscoped] at hp
  | some found =>
      obtain ⟨s, n⟩ := found
      rw [hscoped] at hp
      obtain ⟨outer, owner, hwithin, hcounts, hdepth⟩ := within_marker hp hm
      obtain ⟨hlists, hquotes⟩ := scoped?_counts hscoped
      refine ⟨outer, owner, hwithin, hcounts, ?_⟩
      rw [hdepth, List.countP_append]
      cases m <;> simp [Mark.depthIn, Mark.counts, hlists, hquotes]

end Node

namespace Renderer

variable (r : Renderer)

/-- The style of the markers of a container at a depth. Markers of lists stand in a column, whose
width is that of the bullet, or of the number of all children and a point, in whole points. -/
def StyleAt (depth : Nat) (style : ParagraphStyle) (m : Mark) : Prop :=
  let margin := r.options.baseLeftMargin + r.options.nestingIndent * Float.ofNat depth
  let columned (column : Int) : ParagraphStyle :=
    let first := margin + Float.ofInt column
    let second := first + r.options.markerSpacing
    { tabStops := [⟨.right, first⟩, ⟨.left, second⟩], headIndent := second }
  let width (text : String) (font : Font) := Decimal.ceiling (r.backend.measure text font).value
  match m with
  | .bullet _ => ∃ column,
    width r.options.bullet (r.backend.systemFont r.options.baseFontSize .regular).value =
      .ok column ∧ style = columned column
  | .number _ children => ∃ column,
    width (toString children ++ ".")
      (r.backend.monospacedDigitFont r.options.baseFontSize .regular).value = .ok column ∧
        style = columned column
  | .quote _ => style = { tabStops := [⟨.left, margin⟩], headIndent := margin }

/-- What is known of paragraph style and depth of a piece. A marker has the style of its container
at the depth it carries; other runs have neither. -/
def MarginsOf (above : List Kind) (style : Mark → ParagraphStyle) (p : Piece) (a : Attributes) :
    Prop :=
  match p.origin with
  | .marker m _ => ∃ outer owner depth,
    p.within = outer ++ [owner] ∧ m.counts owner.kind = true ∧
      depth = (above ++ outer.map (·.kind)).countP m.counts ∧
      a.nestingDepth = .value depth ∧ a.paragraphStyle = .value (style m) ∧
      r.StyleAt depth (style m) m
  | _ => a.nestingDepth = .absent ∧ a.paragraphStyle = .absent

/-- The style that all markers of a container share. -/
def markStyle (m : Mark) : ParagraphStyle :=
  match m with
  | .bullet depth | .number depth _ => r.listStyle depth ((r.markWidth m).toOption.getD 0)
  | .quote depth => r.quoteStyle depth

theorem styleAt_markStyle {m : Mark} {column : Int} (h : r.markWidth m = .ok column) :
    r.StyleAt m.depth (r.markStyle m) m := by
  cases m with
  | quote depth => rfl
  | bullet depth =>
      refine ⟨column, h, ?_⟩
      simp only [markStyle, h]
      rfl
  | number depth children =>
      refine ⟨column, h, ?_⟩
      simp only [markStyle, h]
      rfl

/-- Nothing that encloses a run changes its depth or its paragraph style. -/
theorem margins_runOf (p : Piece) :
    (r.runOf p).attributes.nestingDepth = (r.originAttributes p.origin).nestingDepth ∧
      (r.runOf p).attributes.paragraphStyle = (r.originAttributes p.origin).paragraphStyle :=
  ⟨r.get_runOf_of_unwritten p (k := .nestingDepth) (by decide) fun _ => rfl,
    r.get_runOf_of_unwritten p (k := .paragraphStyle) (by decide) fun _ => rfl⟩

theorem originAttributes_marker (m : Mark) (i : Nat) :
    (r.originAttributes (.marker m i)).nestingDepth = .value m.depth ∧
      (r.originAttributes (.marker m i)).paragraphStyle = .value (r.markStyle m) := by
  cases m <;> exact ⟨rfl, rfl⟩

/-- Paragraph styles and depths occur on markers only, and both together. They are those of the
marker's own container, whatever encloses it, and all markers of a container share their style. -/
theorem margins_render {α : Type} (tree : Node α) (path : List Nat) {n : Node Place}
    {out : StyledText} (hn : tree.placed.at? path = some n) (h : (r.render n).result = .ok out) :
    ∃ style : Mark → ParagraphStyle,
      List.Forall₂ (fun p run => r.MarginsOf (tree.kindsAbove path) style p run.attributes)
        (tree.piecesAt path) out.runs := by
  refine ⟨r.markStyle, (shows_render hn h).forall₂ ?_⟩
  intro p hp hmeasured
  obtain ⟨hdepth, hstyle⟩ := r.margins_runOf p
  unfold MarginsOf
  rw [hdepth, hstyle]
  cases horigin : p.origin with
  | marker m i =>
      obtain ⟨column, hcolumn⟩ := hmeasured m i horigin
      obtain ⟨outer, owner, hwithin, hcounts, hcount⟩ := Node.depth_marker hp horigin
      obtain ⟨hmarkDepth, hmarkStyle⟩ := r.originAttributes_marker m i
      rw [hmarkDepth, hmarkStyle]
      exact ⟨outer, owner, m.depth, hwithin, hcounts, hcount, rfl, rfl,
        r.styleAt_markStyle hcolumn⟩
  | literal | code | gap => exact ⟨rfl, rfl⟩

end Renderer

def Tree.quotedList : Tree :=
  .branch .blockQuote [.branch (.orderedList 3) [.branch (.listItem none) [.text "a"]]]

def Tree.listedQuote : Tree :=
  .branch .unorderedList [.branch (.listItem none) [Tree.quotedList]]

/-- The quote is rendered where it stands: the list above it counts for the list inside it, and not
for the quote. -/
theorem margins_render_quotedList :
    Tree.listedQuote.placed.at? [0, 0] =
        some (Tree.quotedList.place [.listItem, .unorderedList] false) ∧
      ∃ out tab number,
        ((Renderer.mk {} .fixed).render
          (Tree.quotedList.place [.listItem, .unorderedList] false)).result = .ok out ∧
        out.runs[0]? = some tab ∧ tab.attributes.nestingDepth = .value 0 ∧
        out.runs[1]? = some number ∧ number.attributes.nestingDepth = .value 1 := by
  have hn : Tree.listedQuote.placed.at? [0, 0] =
      some (Tree.quotedList.place [.listItem, .unorderedList] false) := rfl
  obtain ⟨out, hout⟩ := Traced.exists_result_eq_ok
    (x := (Renderer.mk {} .fixed).render
      (Tree.quotedList.place [.listItem, .unorderedList] false)) (by decide +kernel)
  obtain ⟨style, hmargins⟩ := Renderer.margins_render _ Tree.listedQuote [0, 0] hn hout
  have hquote : (Tree.listedQuote.piecesAt [0, 0])[0]? =
      some ⟨.marker (.quote 0) 0, [.blockQuote]⟩ := rfl
  have hlist : (Tree.listedQuote.piecesAt [0, 0])[1]? =
      some ⟨.marker (.number 1 1) 0, [.blockQuote, .orderedList 3]⟩ := rfl
  obtain ⟨tab, htab, outer, owner, depth, hwithin, -, hdepth, htabDepth, -⟩ :=
    Renderer.exists_run hmargins hquote
  obtain ⟨number, hnumber, outer', owner', depth', hwithin', -, hdepth', hnumberDepth, -⟩ :=
    Renderer.exists_run hmargins hlist
  have houter : outer = [] := by
    simpa using (congrArg List.dropLast hwithin).symm
  have houter' : outer' = [.blockQuote] := by
    simpa using (congrArg List.dropLast hwithin').symm
  rw [houter] at hdepth
  rw [houter'] at hdepth'
  refine ⟨hn, out, tab, number, hout, htab, ?_, hnumber, ?_⟩
  · rw [htabDepth, hdepth]
    rfl
  · rw [hnumberDepth, hdepth']
    rfl

end RichText
