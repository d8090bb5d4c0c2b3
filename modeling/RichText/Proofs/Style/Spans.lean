import RichText.Proofs.Style.Equality
import RichText.Proofs.Style.Ranges

/-! # Spans of one value

The spans of an attribute are those of the coarsest grouping of neighbouring runs in which each group
has one value. -/

namespace RichText

def Run.value? (r : Run) (k : Key) : Option k.Value := (r.attributes.get k).value?

def Run.IsNumeric (k : Key) (r : Run) : Prop := ∀ v, r.value? k = some v → k.IsNumeric v

theorem Run.IsNumeric.beq_self {k : Key} {r : Run} (h : r.IsNumeric k) :
    (r.value? k == r.value? k) = true := by
  cases hv : r.value? k with
  | none => rfl
  | some v => exact Key.beq_self_of_isNumeric (h v hv)

/-! ## Groups of runs -/

/-- Runs, at least one, that have one value of an attribute. -/
structure Uniform (k : Key) (g : List Run) : Prop where
  ne_nil : g ≠ []
  beq : ∀ r ∈ g, ∀ r' ∈ g, (r.value? k == r'.value? k) = true

/-- No run of one group has the value of a run of the other. -/
def Differ (k : Key) (g g' : List Run) : Prop :=
  ∀ r ∈ g, ∀ r' ∈ g', (r.value? k == r'.value? k) = false

/-- Neighbouring runs put together, each group of one value. -/
structure IsGrouping (k : Key) (runs : List Run) (groups : List (List Run)) : Prop where
  flatten : groups.flatten = runs
  uniform : ∀ g ∈ groups, Uniform k g

/-- The groups of any other grouping are put together to the groups of this one. -/
structure IsCoarsest (k : Key) (runs : List Run) (groups : List (List Run)) : Prop
    extends IsGrouping k runs groups where
  joins : ∀ others, IsGrouping k runs others →
    ∃ parts : List (List (List Run)), parts.flatten = others ∧ parts.map List.flatten = groups

section

variable {k : Key} {r r' : Run} {g g' rs : List Run} {groups others : List (List Run)}

theorem Uniform.singleton (hr : r.IsNumeric k) : Uniform k [r] where
  ne_nil := List.cons_ne_nil _ _
  beq := by
    intro x hx y hy
    rw [List.mem_singleton.mp hx, List.mem_singleton.mp hy]
    exact hr.beq_self

theorem Uniform.append_singleton (hg : Uniform k (r :: g))
    (h : (r'.value? k == r.value? k) = true) : Uniform k (r :: (g ++ [r'])) where
  ne_nil := List.cons_ne_nil _ _
  beq := by
    have hall : ∀ x ∈ r :: (g ++ [r']), (x.value? k == r.value? k) = true := by
      intro x hx
      rw [← List.cons_append, List.mem_append, List.mem_singleton] at hx
      rcases hx with hx | rfl
      · exact hg.beq x hx r List.mem_cons_self
      · exact h
    intro x hx y hy
    exact BEq.trans (hall x hx) (BEq.symm (hall y hy))

/-- The first runs tell two groups apart. -/
theorem Uniform.differ (hg : Uniform k (r :: g)) (hg' : Uniform k (r' :: g'))
    (h : ¬ (r'.value? k == r.value? k) = true) : Differ k (r :: g) (r' :: g') := by
  intro x hx y hy
  refine Bool.eq_false_of_not_eq_true fun heq => h ?_
  have hfirst := hg'.beq r' List.mem_cons_self y hy
  have hother := hg.beq x hx r List.mem_cons_self
  exact BEq.trans (BEq.trans hfirst (BEq.symm heq)) hother

theorem IsGrouping.singleton (hg : Uniform k g) : IsGrouping k g [g] where
  flatten := List.flatten_singleton
  uniform _ hx := List.mem_singleton.mp hx ▸ hg

theorem IsGrouping.cons (hg : Uniform k g) (h : IsGrouping k rs groups) :
    IsGrouping k (g ++ rs) (g :: groups) where
  flatten := by rw [List.flatten_cons, h.flatten]
  uniform := List.forall_mem_cons.mpr ⟨hg, h.uniform⟩

theorem IsGrouping.eq_nil_iff (h : IsGrouping k rs groups) : groups = [] ↔ rs = [] := by
  rw [← h.flatten]
  constructor
  · rintro rfl
    rfl
  · intro hnil
    cases groups with
    | nil => rfl
    | cons g rest =>
      exact ((h.uniform g List.mem_cons_self).ne_nil (List.append_eq_nil_iff.mp hnil).1).elim

/-- No group lies on both sides of a place where the value changes. -/
theorem IsGrouping.exists_append (h : IsGrouping k (g ++ r :: rs) others)
    (hdiffer : ∀ r' ∈ g, (r'.value? k == r.value? k) = false) :
    ∃ part rest, others = part ++ rest ∧ part.flatten = g ∧ rest.flatten = r :: rs := by
  rcases List.flatten_eq_append_iff.mp h.flatten with
    ⟨part, rest, rfl, rfl, hrest⟩ | ⟨part, front, c, back, rest, rfl, rfl, hrest⟩
  · exact ⟨part, rest, rfl, rfl, hrest.symm⟩
  · obtain ⟨rfl, -⟩ := List.cons.inj hrest
    cases front with
    | nil => exact ⟨part, (r :: back) :: rest, rfl, (List.append_nil _).symm, hrest.symm⟩
    | cons r' front =>
      have hbeq := (h.uniform _ (List.mem_append_right _ List.mem_cons_self)).beq r'
        List.mem_cons_self r (List.mem_append_right _ List.mem_cons_self)
      rw [hdiffer r' (List.mem_append_right _ List.mem_cons_self)] at hbeq
      cases hbeq

/-- Groups of which each differs from the next are as few as there can be. -/
theorem IsGrouping.isCoarsest (h : IsGrouping k rs groups) (hdiffer : groups.IsChain (Differ k)) :
    IsCoarsest k rs groups where
  toIsGrouping := h
  joins others hothers := by
    induction groups generalizing rs others with
    | nil => exact ⟨[], (hothers.eq_nil_iff.mpr (h.eq_nil_iff.mp rfl)).symm, rfl⟩
    | cons g groups ih =>
      cases groups with
      | nil =>
        refine ⟨[others], List.flatten_singleton, ?_⟩
        rw [List.map_singleton, hothers.flatten, ← h.flatten, List.flatten_singleton]
      | cons g' groups =>
        have hrest : ∀ h ∈ g' :: groups, Uniform k h := fun x hx => h.uniform x (.tail _ hx)
        obtain ⟨r, more, rfl⟩ := List.exists_cons_of_ne_nil (hrest g' List.mem_cons_self).ne_nil
        obtain ⟨hhead, htail⟩ := List.isChain_cons_cons.mp hdiffer
        obtain ⟨part, rest, rfl, hpart, hflatten⟩ := IsGrouping.exists_append
          (h.flatten ▸ hothers) fun r' hr' => hhead r' hr' r List.mem_cons_self
        obtain ⟨parts, hparts, hmap⟩ := ih ⟨rfl, hrest⟩ htail rest
          ⟨hflatten, fun x hx => hothers.uniform x (List.mem_append_right _ hx)⟩
        exact ⟨part :: parts, by rw [List.flatten_cons, hparts],
          by rw [List.map_cons, hpart, hmap]⟩

end

/-! ## Spans of groups -/

/-- A group of runs as one run, with the attributes of the first. -/
def merged : List Run → Run
  | [] => ⟨"", {}⟩
  | r :: rest => ⟨StyledText.text ⟨r :: rest⟩, r.attributes⟩

namespace StyledText

/-- The span of each run, with the run's value of an attribute. -/
def valueSpans (k : Key) (start : Nat) (rs : List Run) : List (Span (Option k.Value)) :=
  (rangesFrom start rs).map fun s => { s with value := (s.value.get k).value? }

variable {k : Key} {r : Run} {g rs : List Run} {groups : List (List Run)} {start : Nat}

theorem valueSpans_cons : valueSpans k start (r :: rs) =
    ⟨start, start + r.length, r.value? k⟩ :: valueSpans k (start + r.length) rs := rfl

theorem length_merged (g : List Run) : (merged g).length = length ⟨g⟩ := by
  cases g <;> rfl

theorem text_map_merged : text ⟨groups.map merged⟩ = text ⟨groups.flatten⟩ := by
  induction groups with
  | nil => rfl
  | cons g groups ih =>
    rw [List.map_cons, text_cons, ih, List.flatten_cons, text_append]
    cases g <;> rfl

/-- What is carried while spans are joined is the span of a group of the runs read so far. The spans
in the end are those of groups, and the first of these begins with the run that the carried one
began with. -/
theorem exists_groups_joinEqual (start : Nat) (hrs : ∀ r ∈ rs, r.IsNumeric k)
    (hg : Uniform k (r :: g)) :
    ∃ groups, IsGrouping k (r :: (g ++ rs)) groups ∧ groups.IsChain (Differ k) ∧
      (∃ more rest, groups = (r :: more) :: rest) ∧
      joinEqual ⟨start, start + length ⟨r :: g⟩, r.value? k⟩
        (valueSpans k (start + length ⟨r :: g⟩) rs) = valueSpans k start (groups.map merged) := by
  induction rs generalizing start r g with
  | nil =>
    rw [List.append_nil]
    exact ⟨[r :: g], IsGrouping.singleton hg, .singleton _, ⟨g, [], rfl⟩, rfl⟩
  | cons r' rs ih =>
    obtain ⟨hr', hrs⟩ := List.forall_mem_cons.mp hrs
    rw [valueSpans_cons, joinEqual]
    dsimp only
    split
    case isTrue heq =>
      -- the run joins the carried group
      have hlength : start + length ⟨r :: (g ++ [r'])⟩ = start + length ⟨r :: g⟩ + r'.length := by
        rw [← List.cons_append, length_append, length_singleton, Nat.add_assoc]
      rw [← hlength, List.append_cons]
      exact ih start hrs (hg.append_singleton heq)
    case isFalse hne =>
      -- the carried group is complete, and the run starts the next one
      obtain ⟨groups, hgroups, hchain, ⟨more, rest, rfl⟩, hjoin⟩ :=
        ih (start + length ⟨r :: g⟩) hrs (.singleton hr')
      rw [length_singleton] at hjoin
      refine ⟨(r :: g) :: (r' :: more) :: rest, IsGrouping.cons hg hgroups, ?_, ⟨g, _, rfl⟩, ?_⟩
      · exact .cons_cons (hg.differ (hgroups.uniform _ List.mem_cons_self) hne) hchain
      · rw [hjoin]
        rfl

theorem isChain_valueSpans (start : Nat) (huniform : ∀ g ∈ groups, Uniform k g)
    (hchain : groups.IsChain (Differ k)) :
    (valueSpans k start (groups.map merged)).IsChain fun s t => (s.value == t.value) = false := by
  induction hchain generalizing start with
  | nil => exact .nil
  | singleton g => exact .singleton _
  | @cons_cons g g' groups hdiffer hrest ih =>
    obtain ⟨hg, htail⟩ := List.forall_mem_cons.mp huniform
    obtain ⟨r, more, rfl⟩ := List.exists_cons_of_ne_nil hg.ne_nil
    obtain ⟨r', more', rfl⟩ := List.exists_cons_of_ne_nil (htail g' List.mem_cons_self).ne_nil
    exact .cons_cons (hdiffer r List.mem_cons_self r' List.mem_cons_self) (ih _ htail)

/-- A group starts where a run starts and stops where one stops. -/
theorem exists_boundaries (huniform : ∀ g ∈ groups, Uniform k g) {s : Span (Option k.Value)}
    (hs : s ∈ valueSpans k start (groups.map merged)) :
    (∃ t ∈ rangesFrom start groups.flatten, t.start = s.start) ∧
      ∃ t ∈ rangesFrom start groups.flatten, t.stop = s.stop := by
  induction groups generalizing start with
  | nil => cases hs
  | cons g groups ih =>
    obtain ⟨hg, huniform⟩ := List.forall_mem_cons.mp huniform
    rw [List.flatten_cons, rangesFrom_append]
    rw [List.map_cons, valueSpans_cons, length_merged] at hs
    rcases List.mem_cons.mp hs with rfl | hs
    · have htiles := tiles_rangesFrom start g
      have hne : rangesFrom start g ≠ [] := by
        obtain ⟨r, more, rfl⟩ := List.exists_cons_of_ne_nil hg.ne_nil
        exact List.cons_ne_nil _ _
      obtain ⟨t, ht, hstart⟩ := htiles.exists_start hne
      obtain ⟨t', ht', hstop⟩ := htiles.exists_stop hne
      exact ⟨⟨t, List.mem_append_left _ ht, hstart⟩, t', List.mem_append_left _ ht', hstop⟩
    · obtain ⟨⟨t, ht, hstart⟩, t', ht', hstop⟩ := ih huniform hs
      exact ⟨⟨t, List.mem_append_right _ ht, hstart⟩, t', List.mem_append_right _ ht', hstop⟩

/-- Every run lies in a group of its value. -/
theorem exists_span (huniform : ∀ g ∈ groups, Uniform k g) {t : Span Attributes}
    (ht : t ∈ rangesFrom start groups.flatten) :
    ∃ s ∈ valueSpans k start (groups.map merged), s.start ≤ t.start ∧ t.stop ≤ s.stop ∧
      (s.value == (t.value.get k).value?) = true := by
  induction groups generalizing start with
  | nil => cases ht
  | cons g groups ih =>
    obtain ⟨hg, huniform⟩ := List.forall_mem_cons.mp huniform
    rw [List.flatten_cons, rangesFrom_append] at ht
    rw [List.map_cons, valueSpans_cons, length_merged]
    rcases List.mem_append.mp ht with ht | ht
    · have htiles := tiles_rangesFrom start g
      obtain ⟨r, hr, hvalue⟩ := exists_mem_of_mem_rangesFrom ht
      obtain ⟨first, more, rfl⟩ := List.exists_cons_of_ne_nil hg.ne_nil
      refine ⟨_, List.mem_cons_self, htiles.start_le ht, htiles.stop_le ht, ?_⟩
      rw [hvalue]
      exact hg.beq first List.mem_cons_self r hr
    · obtain ⟨s, hs, h⟩ := ih huniform ht
      exact ⟨s, List.mem_cons_of_mem _ hs, h⟩

/-! ## All spans -/

theorem joinEqual_of_isChain {α : Type} [BEq α] [PartialEquivBEq α] {s : Span α}
    {spans : List (Span α)}
    (h : (s :: spans).IsChain fun s t => (s.value == t.value) = false) :
    joinEqual s spans = s :: spans := by
  induction spans generalizing s with
  | nil => rfl
  | cons t spans ih =>
    obtain ⟨hne, hrest⟩ := List.isChain_cons_cons.mp h
    rw [joinEqual, if_neg (by rw [BEq.symm_false hne]; decide), ih hrest]

theorem spans_of_isChain {a : StyledText}
    (h : (valueSpans k 0 a.runs).IsChain fun s t => (s.value == t.value) = false) :
    a.spans k = valueSpans k 0 a.runs := by
  obtain ⟨rs⟩ := a
  cases rs with
  | nil => rfl
  | cons r rs => exact joinEqual_of_isChain h

theorem exists_grouping (a : StyledText) (h : ∀ r ∈ a.runs, r.IsNumeric k) :
    ∃ groups, IsGrouping k a.runs groups ∧ groups.IsChain (Differ k) ∧
      a.spans k = valueSpans k 0 (groups.map merged) := by
  obtain ⟨rs⟩ := a
  cases rs with
  | nil => exact ⟨[], ⟨rfl, nofun⟩, .nil, rfl⟩
  | cons r rs =>
    obtain ⟨hr, hrs⟩ := List.forall_mem_cons.mp h
    obtain ⟨groups, hgroups, hchain, -, hjoin⟩ :=
      exists_groups_joinEqual 0 hrs (.singleton hr)
    rw [length_singleton] at hjoin
    exact ⟨groups, hgroups, hchain, hjoin⟩

/-! ## The same spans again -/

/-- A run with the characters of a text on a span, and with no attribute but the one. -/
def ofSpan (k : Key) (text : String) (s : Span (Option k.Value)) : Run :=
  ⟨s.cut text, ({} : Attributes).set k (.ofOption s.value)⟩

/-- A text put together from spans of another text. -/
def ofSpans (k : Key) (text : String) (spans : List (Span (Option k.Value))) : StyledText :=
  ⟨spans.map (ofSpan k text)⟩

theorem value?_ofSpan (text : String) (s : Span (Option k.Value)) :
    (ofSpan k text s).value? k = s.value := by
  rw [Run.value?, ofSpan, Attributes.get_set_self]
  cases s.value <;> rfl

theorem valueSpans_ofSpans {m n : Nat} {text : String} {spans : List (Span (Option k.Value))}
    (h : Tiles m n spans) (hn : n ≤ text.length) :
    valueSpans k m (ofSpans k text spans).runs = spans := by
  induction h with
  | nil => rfl
  | @cons start stop last value rest hle hrest ih =>
    have hlength : (ofSpan k text ⟨start, stop, value⟩).length = stop - start :=
      Span.length_cut _ (hrest.le.trans hn)
    have hrest := ih hn
    rw [ofSpans] at hrest ⊢
    rw [List.map_cons, valueSpans_cons, hlength, Nat.add_sub_cancel' hle, hrest, value?_ofSpan]

/-- The ranges of a styled text lie without a gap from its start to its end, and each cuts its run's
text out of the whole text. So do the spans of an attribute: there are none only if there are no
runs, a character has the value that the attribute has in its run, neighbours differ, and they start
and stop where runs do. They are the spans of the coarsest grouping of runs by value, and the text
put together from them has the same spans again. -/
theorem isCoarsest_spans (a : StyledText) (k : Key) (h : ∀ r ∈ a.runs, r.IsNumeric k) :
    Tiles 0 a.length a.ranges ∧
    List.Forall₂ (fun s r => s.cut a.text = r.text ∧ s.value = r.attributes) a.ranges a.runs ∧
    Tiles 0 a.length (a.spans k) ∧
    (a.spans k = [] ↔ a.runs = []) ∧
    (∀ i, ∀ s ∈ a.spans k, ∀ t ∈ a.ranges, s.Covers i → t.Covers i →
      (s.value == (t.value.get k).value?) = true) ∧
    (a.spans k).IsChain (fun s t => (s.value == t.value) = false) ∧
    (∀ s ∈ a.spans k, (∃ t ∈ a.ranges, t.start = s.start) ∧ ∃ t ∈ a.ranges, t.stop = s.stop) ∧
    (∃ groups, IsCoarsest k a.runs groups ∧ a.spans k = valueSpans k 0 (groups.map merged)) ∧
    (ofSpans k a.text (a.spans k)).spans k = a.spans k := by
  obtain ⟨groups, hgroups, hchain, hspans⟩ := exists_grouping a h
  have hranges : a.ranges = rangesFrom 0 groups.flatten := by
    rw [hgroups.flatten]
    rfl
  have htext : text ⟨groups.map merged⟩ = a.text := by
    rw [text_map_merged, hgroups.flatten]
  have htiles : Tiles 0 a.length (a.spans k) := by
    have hmerged := tiles_rangesFrom 0 (groups.map merged)
    rw [length, htext, Nat.zero_add] at hmerged
    rw [hspans]
    exact hmerged.map fun attributes => (attributes.get k).value?
  have hdiffer := isChain_valueSpans 0 hgroups.uniform hchain
  rw [← hspans] at hdiffer
  have hrebuilt := valueSpans_ofSpans htiles (Nat.le_refl _)
  refine ⟨?_, forall₂_rangesFrom [] a.runs, htiles, ?_, ?_, hdiffer, ?_,
    ⟨groups, hgroups.isCoarsest hchain, hspans⟩, ?_⟩
  · exact Nat.zero_add a.length ▸ tiles_rangesFrom 0 a.runs
  · rw [← hgroups.eq_nil_iff, hspans]
    cases groups <;> simp [valueSpans, rangesFrom]
  · intro i s hs t ht hsi hti
    obtain ⟨s', hs', hstart, hstop, hvalue⟩ := exists_span hgroups.uniform (hranges ▸ ht)
    have hcovers : s'.Covers i := ⟨Nat.le_trans hstart hti.1, Nat.lt_of_lt_of_le hti.2 hstop⟩
    rwa [htiles.eq_of_covers hs (hspans ▸ hs') hsi hcovers]
  · intro s hs
    rw [hranges]
    exact exists_boundaries hgroups.uniform (hspans ▸ hs)
  · rw [spans_of_isChain (by rwa [hrebuilt]), hrebuilt]

/-- A run without text and without a font parts two runs of one font. -/
theorem isCoarsest_spans_parted :
    let regular : Font := { family := "Times", face := "Times-Roman", size := 12.0 }
    let a : StyledText := ⟨[⟨"ab", { font := .value regular }⟩, ⟨"", {}⟩, ⟨"", { font := .null }⟩,
      ⟨"c", { font := .value regular }⟩]⟩
    (∀ r ∈ a.runs, r.IsNumeric .font) ∧ Tiles 0 3 (a.spans .font) ∧
      (a.spans .font).IsChain (fun s t => (s.value == t.value) = false) ∧
      (ofSpans .font "abc" (a.spans .font)).spans .font = a.spans .font := by
  intro regular a
  have hregular : regular.size.isNaN = false := by decide +kernel
  have hnumeric : ∀ r ∈ a.runs, r.IsNumeric .font := by
    refine List.forall_mem_cons.mpr ⟨?_, List.forall_mem_cons.mpr ⟨nofun,
      List.forall_mem_cons.mpr ⟨nofun, List.forall_mem_singleton.mpr ?_⟩⟩⟩
    all_goals
      rintro v ⟨⟩
      exact hregular
  have htext : a.text = "abc" := by decide
  obtain ⟨-, -, htiles, -, -, hdiffer, -, -, hagain⟩ := isCoarsest_spans a .font hnumeric
  rw [length, htext] at htiles
  rw [htext] at hagain
  exact ⟨hnumeric, htiles, hdiffer, hagain⟩

end StyledText

end RichText
