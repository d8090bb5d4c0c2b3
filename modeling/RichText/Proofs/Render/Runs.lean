import Mathlib.Data.List.Forall2
import RichText.Render.Basic
import RichText.Proofs.Traced
import RichText.Proofs.Render.Pieces

/-! # Runs of a rendering

A rendering that succeeds gives one run for each piece of its node, in order. The run of a piece is
found from its origin and the containers around it alone: it starts with the attributes of its
origin, and the containers dress it one after the other, the innermost first. -/

namespace RichText

def Run.addTraits (backend : Backend) (traits : Traits) (size : Option Float) (run : Run) : Run :=
  match run.font? with
  | some font => run.set .font (.value (backend.withTraits font traits size).value)
  | none => run

theorem Run.value_mapFonts (change : Font → Logged Font) (runs : List Run) :
    (Run.mapFonts change runs).value = runs.map fun run =>
      match run.font? with
      | some font => run.set .font (.value (change font).value)
      | none => run := by
  induction runs with
  | nil => rfl
  | cons run runs ih =>
      cases h : run.font? <;> simp [Run.mapFonts, h, ih]

theorem StyledText.runs_addTraits (backend : Backend) (traits : Traits) (size : Option Float)
    (a : StyledText) :
    (a.addTraits backend traits size).value.runs = a.runs.map (Run.addTraits backend traits size) :=
  Run.value_mapFonts _ a.runs

namespace Renderer

variable (r : Renderer)

/-! ## What a piece comes to -/

/-- The width of the column of a container's markers in whole points, if the measured width has one.
Tabs have no column. -/
def markWidth : Mark → Except Decimal.Unbounded Int
  | .bullet _ => Decimal.ceiling (r.backend.measure r.options.bullet r.baseFont.value).value
  | .number _ children =>
    Decimal.ceiling (r.backend.measure (toString children ++ ".") r.numeralFont.value).value
  | .quote _ => .ok 0

def markAttributes (column : Int) : Mark → Attributes
  | .bullet depth => markerAttributes r.baseFont.value depth (r.listStyle depth column)
  | .number depth _ => markerAttributes r.numeralFont.value depth (r.listStyle depth column)
  | .quote depth => markerAttributes r.baseFont.value depth (r.quoteStyle depth)

/-- The markers of a container; without a width their column counts as empty. -/
def markerOf (m : Mark) : Marker :=
  ⟨r.markAttributes ((r.markWidth m).toOption.getD 0) m, fun i => m.text r.options.bullet i⟩

theorem markerOf_eq {m : Mark} {column : Int} (h : r.markWidth m = .ok column) :
    r.markerOf m = ⟨r.markAttributes column m, fun i => m.text r.options.bullet i⟩ := by
  simp [markerOf, h, Except.toOption]

def originAttributes : Origin → Attributes
  | .literal _ | .gap _ => { font := .value r.baseFont.value }
  | .code _ => r.codeAttributes r.codeFont.value
  | .marker m _ => (r.markerOf m).attributes

/-- What a container does to a run inside it. -/
def dress : Container → Run → Run
  | .emphasis => Run.addTraits r.backend { italic := true } none
  | .strong => Run.addTraits r.backend { bold := true } none
  | .heading level =>
    Run.addTraits r.backend { bold := true } (some (r.options.headingSize level.val))
  | .strikethrough => fun run => run.set .strikethrough (.value .single)
  | .blockQuote => fun run => run.set .foregroundColor (.value r.options.mutedColor)
  | .link destination _ => fun run =>
    let colored := run.set .foregroundColor (.value r.options.linkColor)
    ((r.linkTarget destination).value.map fun target =>
      colored.set .link (.value target)).getD colored
  | _ => id

/-- The run of a piece. -/
def runOf (p : Piece) : Run :=
  p.within.foldr r.dress ⟨p.origin.text r.options.bullet, r.originAttributes p.origin⟩

theorem runOf_bare (o : Origin) :
    r.runOf { origin := o } = ⟨o.text r.options.bullet, r.originAttributes o⟩ := rfl

theorem runOf_inside (c : Container) (p : Piece) : r.runOf (p.inside c) = r.dress c (r.runOf p) :=
  rfl

/-- The column of a marker has a width; there is nothing to measure for other pieces. -/
def Measured (p : Piece) : Prop :=
  ∀ m i, p.origin = .marker m i → ∃ column, r.markWidth m = .ok column

/-- A text that has one run for each of some pieces, the columns of all markers being measured. -/
structure Shows (text : StyledText) (pieces : List Piece) : Prop where
  runs_eq : text.runs = pieces.map r.runOf
  measured : ∀ p ∈ pieces, r.Measured p

/-! ## The steps of a rendering -/

theorem result_found_eq_ok_iff {α : Type} (kind : Kind) (o : Option α) (a : α) :
    (found kind o).result = .ok a ↔ o = some a := by
  cases o <;> simp [found]

theorem result_column (text : String) (font : Font) :
    (r.column text font).result =
      (Decimal.ceiling (r.backend.measure text font).value).mapError .width := by
  unfold column
  rw [Traced.result_liftM_bind]
  cases Decimal.ceiling (r.backend.measure text font).value <;> rfl

theorem ceiling_of_column {text : String} {font : Font} {width : Int}
    (h : (r.column text font).result = .ok width) :
    Decimal.ceiling (r.backend.measure text font).value = .ok width := by
  rw [result_column] at h
  cases hw : Decimal.ceiling (r.backend.measure text font).value with
  | error cause => simp [hw, Except.mapError] at h
  | ok w => simpa [hw, Except.mapError] using h

/-- What the markers of both kinds of lists have in common: a font, the depth of the list and the
width of a column are found in turn. -/
theorem listMarker_eq {font : Logged Font} {kind : Kind} {p : Place} {text : String}
    {make : Font → Nat → Int → Marker} {marker : Marker}
    (h : Traced.result (liftM font >>= fun f => found kind p.listDepth? >>= fun depth =>
      r.column text f >>= fun column => pure (make f depth column)) = .ok marker) :
    ∃ column, Decimal.ceiling (r.backend.measure text font.value).value = .ok column ∧
      marker = make font.value p.scope.lists column := by
  simp only [Traced.result_liftM_bind, Traced.result_bind_eq_ok_iff, result_found_eq_ok_iff,
    Traced.result_pure, Except.ok.injEq] at h
  obtain ⟨depth, hdepth, column, hcolumn, rfl⟩ := h
  rw [Place.lists_of_listDepth? hdepth]
  exact ⟨column, r.ceiling_of_column hcolumn, rfl⟩

theorem bulletMarker_eq {p : Place} {marker : Marker}
    (h : (r.bulletMarker p).result = .ok marker) :
    marker = r.markerOf (.bullet p.scope.lists) ∧
      ∃ width, r.markWidth (.bullet p.scope.lists) = .ok width := by
  obtain ⟨width, hwidth, rfl⟩ := r.listMarker_eq h
  have hmark : r.markWidth (.bullet p.scope.lists) = .ok width := hwidth
  exact ⟨(r.markerOf_eq hmark).symm, width, hmark⟩

theorem numberMarker_eq {p : Place} {children : Nat} {marker : Marker}
    (h : (r.numberMarker p children).result = .ok marker) :
    marker = r.markerOf (.number p.scope.lists children) ∧
      ∃ width, r.markWidth (.number p.scope.lists children) = .ok width := by
  obtain ⟨width, hwidth, rfl⟩ := r.listMarker_eq h
  have hmark : r.markWidth (.number p.scope.lists children) = .ok width := hwidth
  exact ⟨(r.markerOf_eq hmark).symm, width, hmark⟩

theorem quoteMarker_eq {p : Place} {marker : Marker}
    (h : (r.quoteMarker p).result = .ok marker) :
    marker = r.markerOf (.quote p.scope.quotes) := by
  simp only [quoteMarker, Traced.result_liftM_bind, Traced.result_bind_eq_ok_iff,
    result_found_eq_ok_iff, Traced.result_pure, Except.ok.injEq] at h
  obtain ⟨depth, hdepth, rfl⟩ := h
  rw [Place.quotes_of_quoteDepth? hdepth]
  rfl

/-- What a container does first gives its markers, and their column has a width. -/
theorem begin_eq {p : Place} {children : Nat} {c : Container} {marker : Option Marker}
    (h : (r.begin p children c).result = .ok marker) :
    marker = (c.mark? p.scope children).map r.markerOf ∧
      ∀ m ∈ c.mark? p.scope children, ∃ width, r.markWidth m = .ok width := by
  cases c with
  | unorderedList =>
      obtain ⟨marker', hm, rfl⟩ := (Traced.result_map_eq_ok_iff _ _ _).mp h
      obtain ⟨rfl, hwidth⟩ := r.bulletMarker_eq hm
      simpa [Container.mark?] using hwidth
  | orderedList start =>
      obtain ⟨marker', hm, rfl⟩ := (Traced.result_map_eq_ok_iff _ _ _).mp h
      obtain ⟨rfl, hwidth⟩ := r.numberMarker_eq hm
      simpa [Container.mark?] using hwidth
  | blockQuote =>
      obtain ⟨marker', hm, rfl⟩ := (Traced.result_map_eq_ok_iff _ _ _).mp h
      obtain rfl := r.quoteMarker_eq hm
      simp [Container.mark?, markWidth]
  | _ =>
      cases h
      simp [Container.mark?]

/-- A container restyles each run on its own. -/
theorem runs_restyle (text : StyledText) (c : Container) :
    (r.restyle text c).value.runs = text.runs.map (r.dress c) := by
  cases c with
  | emphasis => exact StyledText.runs_addTraits _ _ _ text
  | strong => exact StyledText.runs_addTraits _ _ _ text
  | heading level => exact StyledText.runs_addTraits _ _ _ text
  | strikethrough => rfl
  | blockQuote => rfl
  | link destination title =>
      simp only [restyle, Logged.value_bind, dress]
      cases (r.linkTarget destination).value with
      | none => rfl
      | some target => simp [StyledText.set]
  | _ => simp only [restyle, Logged.value_pure, dress, List.map_id]

/-- The gap that is put behind a node is the one found on the way down to it. -/
theorem separator_eq {p : Place} {kind : Kind} {gap : Option String}
    (h : (separator p kind).result = .ok gap) :
    p.scope.gap kind = (gap.map fun text => { origin := .gap text }).toList := by
  unfold separator at h
  by_cases hf : p.followed = true
  · have hs : p.scope.followed = true := hf
    rw [if_pos hf] at h
    cases kind <;> simp only [Scope.gap, hs, if_true]
    case paragraph | orderedList =>
      obtain ⟨b, hb, hgap⟩ := (Traced.result_bind_eq_ok_iff _ _ _).mp h
      rw [Place.inList?_eq_some ((result_found_eq_ok_iff _ _ _).mp hb)] at hgap
      cases hgap
      simp
    all_goals
      cases h
      rfl
  · have hs : p.scope.followed = false := eq_false_of_ne_true hf
    rw [if_neg hf] at h
    cases h
    simp [Scope.gap, hs]

theorem shows_leafText (l : Leaf) :
    ∃ text, (r.leafText l).result = .ok text ∧ r.Shows text l.pieces := by
  refine ⟨⟨l.pieces.map r.runOf⟩, ?_, rfl, fun p hp m i hm => (Leaf.origin_pieces hp m i hm).elim⟩
  cases l <;> rfl

variable {r}

theorem Shows.append {a b : StyledText} {ps qs : List Piece} (ha : r.Shows a ps)
    (hb : r.Shows b qs) : r.Shows (a ++ b) (ps ++ qs) := by
  refine ⟨?_, ?_⟩
  · simp [ha.runs_eq, hb.runs_eq]
  · intro p hp
    rcases List.mem_append.mp hp with hp | hp
    · exact ha.measured p hp
    · exact hb.measured p hp

theorem Shows.restyle {text : StyledText} {ps : List Piece} (h : r.Shows text ps)
    (c : Container) : r.Shows (r.restyle text c).value (ps.map (·.inside c)) := by
  refine ⟨?_, ?_⟩
  · rw [runs_restyle, h.runs_eq]
    simp [runOf_inside]
  · intro p hp m i hm
    obtain ⟨q, hq, rfl⟩ := List.mem_map.mp hp
    exact h.measured q hq m i hm

theorem Shows.separate {p : Place} {kind : Kind} {text out : StyledText} {ps : List Piece}
    (h : r.Shows text ps) (hout : (r.separate p kind text).result = .ok out) :
    r.Shows out (ps ++ p.scope.gap kind) := by
  obtain ⟨gap, hgap, hout⟩ := (Traced.result_bind_eq_ok_iff _ _ _).mp hout
  have hmeasured : ∀ q ∈ p.scope.gap kind, r.Measured q :=
    fun q hq m i hm => (Scope.origin_gap hq m i hm).elim
  rw [separator_eq hgap] at hmeasured ⊢
  cases gap with
  | none =>
      cases hout
      simpa using h
  | some gap =>
      rw [Traced.result_liftM_bind] at hout
      cases hout
      exact h.append ⟨rfl, hmeasured⟩

/-- What holds of every piece and its run holds of the pieces and the runs of a text in turn. -/
theorem Shows.forall₂ {text : StyledText} {ps : List Piece} (h : r.Shows text ps)
    {rel : Piece → Run → Prop} (hrel : ∀ p ∈ ps, r.Measured p → rel p (r.runOf p)) :
    List.Forall₂ rel ps text.runs := by
  rw [h.runs_eq, List.forall₂_map_right_iff, List.forall₂_same]
  exact fun p hp => hrel p hp (h.measured p hp)

/-- The run at the position of a piece is the one that belongs to it. -/
theorem exists_run {rel : Piece → Run → Prop} {ps : List Piece} {runs : List Run}
    (h : List.Forall₂ rel ps runs) {i : Nat} {p : Piece} (hp : ps[i]? = some p) :
    ∃ run, runs[i]? = some run ∧ rel p run := by
  obtain ⟨hlength, hrel⟩ := List.forall₂_iff_get.mp h
  obtain ⟨hi, rfl⟩ := List.getElem?_eq_some_iff.mp hp
  have hi' : i < runs.length := hlength ▸ hi
  exact ⟨runs[i], List.getElem?_eq_getElem hi', hrel i hi hi'⟩

/-- Joining puts each marker before its own part. -/
theorem Shows.join_cons {mark : Option Mark} {i : Nat} {part : StyledText}
    {parts : List StyledText} {ps qs : List Piece}
    (hmark : ∀ m ∈ mark, ∃ column, r.markWidth m = .ok column) (hpart : r.Shows part ps)
    (hparts : r.Shows (join (mark.map r.markerOf) (i + 1) parts) qs) :
    r.Shows (join (mark.map r.markerOf) i (part :: parts)) (Mark.pieces mark i ++ ps ++ qs) := by
  cases mark with
  | none => exact hpart.append hparts
  | some m =>
      have hm : r.Shows (.ofText (m.text r.options.bullet i) (r.markerOf m).attributes)
          (Mark.pieces (some m) i) := by
        refine ⟨rfl, ?_⟩
        intro p hp m' i' hm'
        obtain ⟨_, hm, rfl⟩ := Mark.mem_pieces_iff.mp hp
        cases hm'
        exact hmark _ hm
      exact (hm.append hpart).append hparts

theorem renders_iff (c : Container) (child : Kind) :
    renders c child = true ↔ c.shows child := by
  unfold renders Container.shows
  cases c.kind.isList <;> simp

/-! ## The runs of a node -/

section Nodes

variable {α : Type}

/-- The children that a container shows, each behind its marker, if each of them is rendered to its
own pieces. -/
theorem shows_layOutAll {c : Container} {p : Place} {mark : Option Mark} {ns : List (Node α)}
    (hmark : ∀ m ∈ mark, ∃ column, r.markWidth m = .ok column)
    (ih : ∀ n ∈ ns, ∀ (q : Place) (out : StyledText),
      (r.layOut (n.place q.above q.followed)).result = .ok out → r.Shows out (n.pieces q.scope))
    (i : Nat) (parts : List StyledText)
    (h : (r.layOutAll c (Node.placeAll (c.kind :: p.above) ns)).result = .ok parts) :
    r.Shows (join (mark.map r.markerOf) i parts) (Node.piecesAll p.scope c mark i ns) := by
  induction ns generalizing i parts with
  | nil =>
      cases h
      exact ⟨rfl, by simp [Node.piecesAll]⟩
  | cons n ns ihs =>
      have ihs := ihs fun m hm => ih m (List.mem_cons_of_mem n hm)
      simp only [Node.placeAll, layOutAll, Node.kind_place, renders_iff] at h
      simp only [Node.piecesAll]
      by_cases hshow : c.shows n.kind
      · simp only [hshow, if_true, Traced.result_bind_eq_ok_iff] at h ⊢
        obtain ⟨part, hpart, rest, hrest, hparts⟩ := h
        cases hparts
        have hn := ih n List.mem_cons_self ⟨c.kind :: p.above, !ns.isEmpty⟩ part hpart
        rw [Place.scope_cons c.kind p.above p.followed] at hn
        exact hn.join_cons hmark (ihs (i + 1) rest hrest)
      · simp only [hshow, if_false] at h ⊢
        exact ihs i parts h

/-- A rendering that succeeds shows the pieces of its node, in order. -/
theorem shows_layOut (n : Node α) (p : Place) (out : StyledText)
    (h : (r.layOut (n.place p.above p.followed)).result = .ok out) :
    r.Shows out (n.pieces p.scope) := by
  induction n generalizing p out with
  | leaf m l =>
      simp only [Node.place, layOut, Traced.result_bind_eq_ok_iff] at h
      obtain ⟨text, htext, hout⟩ := h
      obtain ⟨text', htext', hshows⟩ := r.shows_leafText l
      cases htext.symm.trans htext'
      exact hshows.separate hout
  | branch m c ns ih =>
      simp only [Node.place, layOut, Traced.result_bind_eq_ok_iff, Traced.result_liftM_bind,
        Node.length_placeAll] at h
      obtain ⟨marker, hmarker, parts, hparts, hout⟩ := h
      obtain ⟨rfl, hmark⟩ := r.begin_eq hmarker
      have hinner := shows_layOutAll hmark ih 0 parts hparts
      exact (hinner.restyle c).separate hout

theorem layOut_of_render {n : Node Place} {out : StyledText}
    (h : (r.render n).result = .ok out) : (r.layOut n).result = .ok out := by
  obtain ⟨-, -, h⟩ := (Traced.result_bind_eq_ok_iff _ _ _).mp h
  obtain ⟨text, htext, h⟩ := (Traced.result_bind_eq_ok_iff _ _ _).mp h
  cases h
  exact htext

/-- Rendering the node at the end of a path in a tree shows its pieces, whatever is above it. -/
theorem shows_render {tree : Node α} {path : List Nat} {n : Node Place} {out : StyledText}
    (hn : tree.placed.at? path = some n) (h : (r.render n).result = .ok out) :
    r.Shows out (tree.piecesAt path) := by
  obtain ⟨p, n', rfl, hscoped, -⟩ := Node.exists_scoped?_of_at?_place (p := {}) hn
  have hscoped' : tree.scoped? {} path = some (p.scope, n') := hscoped
  rw [Node.piecesAt, hscoped']
  exact shows_layOut n' p out (layOut_of_render h)

end Nodes

end Renderer

end RichText
