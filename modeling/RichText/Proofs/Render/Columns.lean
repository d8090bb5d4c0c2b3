import RichText.Proofs.Decimal.Values
import RichText.Proofs.Render.InPlace
import RichText.Proofs.Render.Margins

/-! # Columns of numbers

An ordered list puts a number before each of its items, counting from one, and leaves a column for
it that is as wide as the number of all its children. Where more digits are never narrower, no number
is too wide for the column, and the column is no wider than it has to be if all children are items. -/

namespace RichText

def Node.items {α : Type} (ns : List (Node α)) : List (Node α) := ns.filter (·.kind = .listItem)

/-- What a list shows of an item: its marker and its own runs. -/
structure ListEntry where
  marker : Run
  item : List Run

/-- The runs of an entry, the marker first. -/
def ListEntry.runs (e : ListEntry) : List Run := e.marker :: e.item

/-- The entry with all of its runs changed in one way. -/
def ListEntry.map (f : Run → Run) (e : ListEntry) : ListEntry := ⟨f e.marker, e.item.map f⟩

theorem ListEntry.flatMap_map (f : Run → Run) (entries : List ListEntry) :
    (entries.map (ListEntry.map f)).flatMap runs = (entries.flatMap runs).map f := by
  rw [List.flatMap_map, List.map_flatMap]
  rfl

/-! ## Widths of numbers -/

theorem length_toString_le {j k : Nat} (h : j ≤ k) : (toString j).length ≤ (toString k).length := by
  have hk : k < 10 ^ (toString k).length :=
    (Nat.length_repr_le_iff Nat.length_repr_pos).mp (Nat.le_refl _)
  exact (Nat.length_repr_le_iff Nat.length_repr_pos).mpr (Nat.lt_of_le_of_lt h hk)

namespace Renderer

variable (r : Renderer)

/-- The width of a number and a full stop in the font of numbers. -/
def numberWidth (k : Nat) : Float :=
  (r.backend.measure (toString k ++ ".") r.numeralFont.value).value

/-- Numbers up to some number have finite widths, and as many digits or more are never narrower. -/
structure NumbersWiden (most : Nat) : Prop where
  isFinite : ∀ k ≤ most, (r.numberWidth k).isFinite = true
  value_le : ∀ j ≤ most, ∀ k ≤ most, (toString j).length ≤ (toString k).length →
    Decimal.value (r.numberWidth j) ≤ Decimal.value (r.numberWidth k)

/-- How wide the column of a list with so many children is. -/
def columnWidth (children : Nat) : Int := ⌈Decimal.value (r.numberWidth children)⌉

variable {r}

theorem markWidth_number {children : Nat} (hr : r.NumbersWiden children) (depth : Nat) :
    r.markWidth (.number depth children) = .ok (r.columnWidth children) :=
  Decimal.ceiling_of_isFinite (hr.isFinite children le_rfl)

theorem value_numberWidth_le {children : Nat} (hr : r.NumbersWiden children) {k : Nat}
    (h : k ≤ children) :
    Decimal.value (r.numberWidth k) ≤ Decimal.value (r.numberWidth children) :=
  hr.value_le k h children le_rfl (length_toString_le h)

/-! ## Entries -/

section Entries

variable {α : Type} {start : Int} {p : Place} {ns : List (Node α)}

/-- Each item has its entry, with the runs that the item has where it stands. -/
theorem exists_entries (m : Mark) (i : Nat)
    (hitems : ∀ n ∈ Node.items (Node.placeAll (.orderedList :: p.above) ns),
      ∃ inner, (r.render n).result = .ok inner) :
    ∃ entries : List ListEntry,
      (Node.piecesAll p.scope (.orderedList start) (some m) i ns).map r.runOf =
          entries.flatMap ListEntry.runs ∧
        entries.map (·.marker) =
          (List.range' i entries.length).map (fun j => r.runOf { origin := .marker m j }) ∧
        List.Forall₂ (fun n e => ∃ inner, (r.render n).result = .ok inner ∧ e.item = inner.runs)
          (Node.items (Node.placeAll (.orderedList :: p.above) ns)) entries := by
  induction ns generalizing i with
  | nil => exact ⟨[], rfl, rfl, .nil⟩
  | cons n ns ih =>
      have hshows : (Container.orderedList start).shows n.kind ↔ n.kind = .listItem :=
        ⟨fun h => h rfl, fun h _ => h⟩
      rw [Node.placeAll, Node.items, List.filter_cons, Node.kind_place] at hitems ⊢
      rw [Node.piecesAll]
      by_cases hkind : n.kind = .listItem
      · rw [if_pos (hshows.mpr hkind)]
        simp only [hkind, decide_true, if_true] at hitems ⊢
        obtain ⟨inner, hinner⟩ := hitems _ List.mem_cons_self
        obtain ⟨entries, hpieces, hmarkers, hforall⟩ :=
          ih (i + 1) fun m hm => hitems m (List.mem_cons_of_mem _ hm)
        refine ⟨⟨r.runOf { origin := .marker m i }, inner.runs⟩ :: entries, ?_, ?_, ?_⟩
        · have hruns := (shows_layOut n ⟨.orderedList :: p.above, !ns.isEmpty⟩ inner
            (layOut_of_render hinner)).runs_eq
          rw [Place.scope_cons .orderedList p.above p.followed] at hruns
          rw [List.map_append, List.map_append, hpieces, List.flatMap_cons, ListEntry.runs, hruns]
          rfl
        · rw [List.length_cons, List.range'_succ, List.map_cons, List.map_cons, hmarkers]
        · exact .cons ⟨inner, hinner, rfl⟩ hforall
      · -- A child that is no item is not shown and takes no number.
        rw [if_neg (mt hshows.mp hkind)]
        simp only [hkind, decide_false, Bool.false_eq_true, if_false] at hitems ⊢
        exact ih i hitems

/-- Where a list is rendered its items are. -/
theorem exists_render_item {a : α} {out : StyledText} {n : Node Place}
    (h : (r.render ((Node.branch a (.orderedList start) ns).place p.above p.followed)).result =
      .ok out)
    (hn : n ∈ Node.items (Node.placeAll (.orderedList :: p.above) ns)) :
    ∃ inner, (r.render n).result = .ok inner := by
  obtain ⟨hmem, hkind⟩ := List.mem_filter.mp hn
  obtain ⟨i, hi⟩ := List.getElem?_of_mem hmem
  have hat : ((Node.branch a (.orderedList start) ns).place p.above p.followed).at? [i] = some n := by
    change (Node.placeAll (.orderedList :: p.above) ns)[i]?.bind _ = _
    rw [hi]
    rfl
  have hshown : (Node.branch a (.orderedList start) ns).IsShown [i] := by
    intro m hm
    rw [Node.getElem?_placeAll, hm] at hi
    cases hi
    rw [Node.kind_place] at hkind
    refine ⟨fun _ => of_decide_eq_true hkind, ?_⟩
    cases m <;> trivial
  obtain ⟨inner, -, -, hinner, -⟩ := r.exists_render_below hat hshown h
  exact ⟨inner, hinner⟩

/-- A gap is a line break or two. -/
def IsGap (run : Run) : Prop := run.text = "\n" ∨ run.text = "\n\n"

theorem isGap_of_mem {s : Scope} {run : Run} (h : run ∈ (s.gap .orderedList).map r.runOf) :
    IsGap run := by
  obtain ⟨q, hq, rfl⟩ := List.mem_map.mp h
  rw [IsGap, r.text_runOf]
  unfold Scope.gap at hq
  split at hq
  · obtain rfl := List.mem_singleton.mp hq
    by_cases hlists : 0 < s.lists
    · exact .inl (if_pos hlists)
    · exact .inr (if_neg hlists)
  · cases hq

/-- The runs of a list are its entries and perhaps a gap behind them. -/
theorem exists_entries_list {a : α} {out : StyledText}
    (h : (r.render ((Node.branch a (.orderedList start) ns).place p.above p.followed)).result =
      .ok out) :
    ∃ (entries : List ListEntry) (gap : List Run),
      out.runs = entries.flatMap ListEntry.runs ++ gap ∧ (∀ run ∈ gap, IsGap run) ∧
        entries.map (·.marker) = (List.range entries.length).map
          (fun j => r.runOf { origin := .marker (.number p.scope.lists ns.length) j }) ∧
        List.Forall₂ (fun n e => ∃ inner, (r.render n).result = .ok inner ∧ e.item = inner.runs)
          (Node.items (Node.placeAll (.orderedList :: p.above) ns)) entries := by
  obtain ⟨entries, hpieces, hmarkers, hforall⟩ := exists_entries
    (.number p.scope.lists ns.length) 0 fun n hn => exists_render_item h hn
  have hruns := (shows_layOut _ p out (layOut_of_render h)).runs_eq
  rw [Node.pieces, List.map_append, List.map_map] at hruns
  refine ⟨entries, (p.scope.gap .orderedList).map r.runOf, ?_, fun run => isGap_of_mem, ?_, hforall⟩
  · rw [hruns, ← hpieces]
    rfl
  · rw [hmarkers, List.range_eq_range']

end Entries

/-- What an ordered list shows: for each item in turn a marker with its number, all of them with one
style, and the runs that the item has where it stands. Every number fits into the column, which has
the width of the widest, rounded up, if all children are items. -/
structure IsNumbered (r : Renderer) (children : List (Node Place)) (column : Int)
    (entries : List ListEntry) : Prop where
  texts : entries.map (·.marker.text) =
    (List.range (Node.items children).length).map fun i => "\t" ++ toString (i + 1) ++ ".\t"
  style : ∃ depth, ∀ e ∈ entries,
    e.marker.attributes.paragraphStyle = .value (r.listStyle depth column)
  items : List.Forall₂
    (fun n e => ∃ inner, (r.render n).result = .ok inner ∧
      e.item.map (·.text) = inner.runs.map (·.text)) (Node.items children) entries
  fits : ∀ k, 1 ≤ k → k ≤ (Node.items children).length →
    Decimal.value (r.numberWidth k) ≤ column
  tight : children ≠ [] → (∀ n ∈ children, n.kind = .listItem) →
    ∃ k, 1 ≤ k ∧ k ≤ (Node.items children).length ∧
      (∀ j, 1 ≤ j → j ≤ (Node.items children).length →
        Decimal.value (r.numberWidth j) ≤ Decimal.value (r.numberWidth k)) ∧
      column = ⌈Decimal.value (r.numberWidth k)⌉

theorem length_items_le {α : Type} (ns : List (Node α)) : (Node.items ns).length ≤ ns.length :=
  List.length_filter_le _ _

theorem paragraphStyle_marker {children : Nat} (hr : r.NumbersWiden children)
    (containers : List Container) (depth i : Nat) {run : Run}
    (hrun : run = r.dressIn containers
      (r.runOf { origin := .marker (.number depth children) i })) :
    run.attributes.paragraphStyle = .value (r.listStyle depth (r.columnWidth children)) := by
  have hkept := r.get_dressIn_of_unwritten containers
    (r.runOf { origin := .marker (.number depth children) i }) (k := .paragraphStyle) (by decide)
    fun _ => rfl
  obtain ⟨-, hstyle⟩ := r.originAttributes_marker (.number depth children) i
  rw [hrun]
  refine (hkept.trans hstyle).trans ?_
  rw [markStyle, markWidth_number hr]
  rfl

/-- Markers that count from one, in the column that the list leaves for them, are what a list shows. -/
theorem isNumbered_map {children : List (Node Place)} (hr : r.NumbersWiden children.length)
    {entries : List ListEntry} {depth : Nat} (containers : List Container)
    (hmarkers : entries.map (·.marker) = (List.range entries.length).map
      (fun j => r.runOf { origin := .marker (.number depth children.length) j }))
    (hforall : List.Forall₂ (fun n e => ∃ inner, (r.render n).result = .ok inner ∧
      e.item = inner.runs) (Node.items children) entries) :
    r.IsNumbered children (r.columnWidth children.length)
      (entries.map (ListEntry.map (r.dressIn containers))) := by
  have hlength := hforall.length_eq
  have hle := length_items_le children
  constructor
  case texts =>
    rw [hlength, List.map_map]
    have htexts := congrArg (List.map Run.text) hmarkers
    rw [List.map_map, List.map_map] at htexts
    refine Eq.trans ?_ htexts
    exact List.map_congr_left fun e _ => r.text_dressIn containers e.marker
  case style =>
    refine ⟨depth, ?_⟩
    intro e he
    obtain ⟨entry, hentry, rfl⟩ := List.mem_map.mp he
    have hmarker := List.mem_map_of_mem (f := (·.marker)) hentry
    rw [hmarkers] at hmarker
    obtain ⟨j, -, hj⟩ := List.mem_map.mp hmarker
    exact paragraphStyle_marker hr containers depth j (by rw [hj]; rfl)
  case items =>
    rw [List.forall₂_map_right_iff]
    refine hforall.imp ?_
    rintro n e ⟨inner, hinner, hitem⟩
    refine ⟨inner, hinner, ?_⟩
    rw [← hitem, ListEntry.map, List.map_map]
    exact List.map_congr_left fun run _ => r.text_dressIn containers run
  case fits =>
    intro k _ hk
    exact (value_numberWidth_le hr (hk.trans hle)).trans (Int.le_ceil _)
  case tight =>
    intro hne hall
    have hitems : Node.items children = children :=
      List.filter_eq_self.mpr fun n hn => decide_eq_true (hall n hn)
    rw [hitems]
    exact ⟨children.length, List.length_pos_iff.mpr hne, le_rfl,
      fun j _ hj => value_numberWidth_le hr hj, rfl⟩

/-- An ordered list that is shown anywhere in what is rendered numbers its items from one, in a column
into which every number fits. Nothing else is shown of it but a gap. -/
theorem numbered_render {α : Type} {tree : Node α} {path below : List Nat} {n list : Node Place}
    {out : StyledText} (hr : r.NumbersWiden list.children.length)
    (hn : tree.placed.at? path = some n) (h : (r.render n).result = .ok out)
    (hlist : n.at? below = some list) (hshown : n.IsShown below)
    (hkind : list.kind = .orderedList) :
    ∃ column before entries gap after inner,
      out.runs = before ++ (entries.flatMap ListEntry.runs ++ gap) ++ after ∧
        (r.render list).result = .ok inner ∧
        inner.runs.map (·.text) = (entries.flatMap ListEntry.runs ++ gap).map (·.text) ∧
        (∀ run ∈ gap, IsGap run) ∧ r.IsNumbered list.children column entries := by
  obtain ⟨p, n', rfl, -, -⟩ := Node.exists_scoped?_of_at?_place (p := {}) hn
  rw [Node.isShown_place] at hshown
  obtain ⟨inner, before, after, hinner, hruns⟩ := r.exists_render_below hlist hshown h
  obtain ⟨q, list', rfl, -, -⟩ := Node.exists_scoped?_of_at?_place hlist
  cases list' with
  | leaf a l => cases l <;> cases hkind
  | branch a c ns =>
      cases c with
      | orderedList start =>
          obtain ⟨entries, gap, hentries, hgap, hmarkers, hforall⟩ := exists_entries_list hinner
          rw [← Node.length_placeAll ns (.orderedList :: q.above)] at hmarkers
          generalize n'.containersAbove below = containers at hruns
          have hdressed : inner.runs.map (r.dressIn containers) =
              (entries.map (ListEntry.map (r.dressIn containers))).flatMap ListEntry.runs ++
                gap.map (r.dressIn containers) := by
            rw [hentries, List.map_append, ListEntry.flatMap_map]
          refine ⟨_, before, _, gap.map (r.dressIn containers), after, inner, hdressed ▸ hruns, hinner,
            ?_, ?_, isNumbered_map hr containers hmarkers hforall⟩
          · rw [← hdressed, List.map_map]
            exact List.map_congr_left fun run _ => (r.text_dressIn containers run).symm
          · intro run hrun
            obtain ⟨bare, hbare, rfl⟩ := List.mem_map.mp hrun
            rw [IsGap, r.text_dressIn]
            exact hgap bare hbare
      | _ => cases hkind

end Renderer

/-- A list of eleven items, behind the first of which stands a paragraph that is no item. -/
def Tree.elevenItems : Tree :=
  .branch (.orderedList 7) (.branch (.listItem none) [.text "a"] :: .branch .paragraph [.text "b"] ::
    List.replicate 10 (.branch (.listItem none) [.text "c"]))

def Tree.quotedItems : Tree := .branch .blockQuote [Tree.elevenItems]

theorem numberWidth_fixed :
    ∀ k ≤ 12, (Renderer.mk {} .fixed).numberWidth k = if k ≤ 9 then 15 else 22.5 := by
  decide +kernel

theorem numbersWiden_fixed : (Renderer.mk {} .fixed).NumbersWiden 12 where
  isFinite := by decide +kernel
  value_le := by
    intro j hj k hk hlength
    have hshort : ∀ j ≤ 12, ∀ k ≤ 12, (toString j).length ≤ (toString k).length → k ≤ 9 → j ≤ 9 := by
      decide +kernel
    have hvalue : Decimal.value 15 ≤ Decimal.value 22.5 := by
      have hmantissa : 0 < 15 * 2 ^ 49 ∧ 0 < 45 * 2 ^ 47 := by decide
      have hlow : (15 : Float).toModel.unpack = .finite .positive (15 * 2 ^ 49) (-49) hmantissa.1 := rfl
      have hhigh : (22.5 : Float).toModel.unpack = .finite .positive (45 * 2 ^ 47) (-48) hmantissa.2 :=
        rfl
      rw [Decimal.value_of_finite hlow, Decimal.value_of_finite hhigh]
      norm_num [Float.Model.UnpackedFloat.Sign.apply]
    rw [numberWidth_fixed j hj, numberWidth_fixed k hk]
    by_cases hone : k ≤ 9
    · rw [if_pos hone, if_pos (hshort j hj k hk hlength hone)]
    · rw [if_neg hone]
      split
      · exact hvalue
      · exact le_rfl

/-- The eleven numbers have to do with the room that twelve children are given. -/
theorem numbered_render_elevenItems :
    let list := Tree.elevenItems.place [.blockQuote] false
    (Renderer.mk {} .fixed).NumbersWiden list.children.length ∧
      Tree.quotedItems.placed.at? [] = some Tree.quotedItems.placed ∧
      Tree.quotedItems.placed.at? [0] = some list ∧ Tree.quotedItems.placed.IsShown [0] ∧
      list.kind = .orderedList ∧
      ∃ out column before entries gap after,
        ((Renderer.mk {} .fixed).render Tree.quotedItems.placed).result = .ok out ∧
        out.runs = before ++ (entries.flatMap ListEntry.runs ++ gap) ++ after ∧
        (Renderer.mk {} .fixed).IsNumbered list.children column entries := by
  intro list
  have hr : (Renderer.mk {} .fixed).NumbersWiden list.children.length := numbersWiden_fixed
  have hroot : Tree.quotedItems.placed.at? [] = some Tree.quotedItems.placed := rfl
  have hshown : Tree.quotedItems.placed.IsShown [0] := by
    intro n hn
    cases hn
    exact ⟨fun h => (by cases h), trivial⟩
  obtain ⟨out, hout⟩ := Traced.exists_result_eq_ok
    (x := (Renderer.mk {} .fixed).render Tree.quotedItems.placed) (by decide +kernel)
  obtain ⟨column, before, entries, gap, after, -, hruns, -, -, -, hnumbered⟩ :=
    Renderer.numbered_render hr hroot hout rfl hshown rfl
  exact ⟨hr, hroot, rfl, hshown, rfl, out, column, before, entries, gap, after, hout, hruns, hnumbered⟩

end RichText
