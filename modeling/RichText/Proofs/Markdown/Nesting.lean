import RichText.Markdown.Tokens
import RichText.Proofs.Token.Depth

/-! # Nesting of blocks

A quote or a list is begun only where there is room for one more, and items are put in lists and
nowhere else. Both hold of what is open after every line, and so of the blocks that are left when
everything is closed, and of their tokens. -/

namespace RichText.Markdown

/-! ## Blocks -/

/-- Whether a block has no blocks in it. -/
def Block.isLeaf : Block → Bool
  | quote _ | list _ _ | item _ => false
  | _ => true

/-- A block that may stand in a list, or outside of one, and in which there are no more quotes and
lists one in the other than there is room for. -/
inductive Block.Nests : (inList : Bool) → (room : Nat) → Block → Prop
  | leaf {room : Nat} {b : Block} (hb : b.isLeaf = true) : Nests false room b
  | quote {room : Nat} {children : List Block} (h : ∀ b ∈ children, b.Nests false room) :
      Nests false (room + 1) (.quote children)
  | list {room : Nat} {marker : ListMarker} {items : List Block}
      (h : ∀ b ∈ items, b.Nests true room) : Nests false (room + 1) (.list marker items)
  | item {room : Nat} {children : List Block} (h : ∀ b ∈ children, b.Nests false room) :
      Nests true room (.item children)

/-! ## Open containers -/

/-- Which containers may be opened right in which. -/
def Opened.admits (outer : Opened) : (inner : Opened) → Bool
  | document => false
  | item _ => outer.isList
  | quote | list _ => !outer.isList

def Frame.Holds (room : Nat) (f : Frame) : Prop :=
  ∀ b ∈ f.blocks, b.Nests f.container.isList room

/-- Open containers, the innermost first, with room for so many more levels in it. -/
inductive Nested : (room : Nat) → List Frame → Prop
  | document {f : Frame} (hf : f.container = .document) (hblocks : f.Holds maxLevels) :
      Nested maxLevels [f]
  | inside {room : Nat} {f g : Frame} {rest : List Frame}
      (hf : g.container.admits f.container = true) (hblocks : f.Holds room)
      (hrest : Nested (room + f.container.isLevel.toNat) (g :: rest)) :
      Nested room (f :: g :: rest)

variable {room : Nat} {frames rest : List Frame} {f : Frame} {b : Block}

/-- A container that is closed may stand in the one around it. -/
theorem Frame.nests_block {outer : Opened} (hf : outer.admits f.container = true)
    (hblocks : f.Holds room) :
    f.block.Nests outer.isList (room + f.container.isLevel.toNat) := by
  obtain ⟨container, blocks⟩ := f
  have hreverse : ∀ b ∈ blocks.reverse, b.Nests container.isList room :=
    fun b hb => hblocks b (List.mem_reverse.mp hb)
  cases container with
  | document => cases hf
  | quote =>
      have houter : outer.isList = false := by simpa [Opened.admits] using hf
      exact houter ▸ .quote hreverse
  | list marker =>
      have houter : outer.isList = false := by simpa [Opened.admits] using hf
      exact houter ▸ .list hreverse
  | item width =>
      have houter : outer.isList = true := hf
      exact houter ▸ .item hreverse

namespace Nested

theorem add (h : Nested room (f :: rest)) (hb : b.Nests f.container.isList room) :
    Nested room ({ f with blocks := b :: f.blocks } :: rest) := by
  cases h with
  | document hf hblocks => exact .document hf (List.forall_mem_cons.mpr ⟨hb, hblocks⟩)
  | inside hf hblocks hrest => exact .inside hf (List.forall_mem_cons.mpr ⟨hb, hblocks⟩) hrest

theorem openFrame (container : Opened) (h : Nested (room + container.isLevel.toNat) (f :: rest))
    (hf : f.container.admits container = true) :
    Nested room ({ container } :: f :: rest) :=
  .inside hf nofun h

theorem openItem {width : Nat} (h : Nested room (f :: rest)) (hf : f.container.isList = true) :
    Nested room ({ container := .item width } :: f :: rest) :=
  openFrame (.item width) h hf

theorem closeFrames {count : Nat} (h : Nested room frames) :
    ∃ room', Nested room' (Spine.closeFrames count frames) := by
  induction count generalizing room frames with
  | zero => exact ⟨room, h⟩
  | succ count ih =>
      cases h with
      | document hf hblocks => exact ⟨maxLevels, .document hf hblocks⟩
      | inside hf hblocks hrest => exact ih (hrest.add (Frame.nests_block hf hblocks))

/-- Every level that is open takes up room. -/
theorem room_add_levels (h : Nested room frames) :
    room + frames.countP (·.container.isLevel) = maxLevels := by
  induction h with
  | document hf hblocks => simp [hf, Opened.isLevel]
  | @inside room f g rest hf hblocks hrest ih =>
      have hlevel : (if f.container.isLevel then 1 else 0) = f.container.isLevel.toNat := by
        cases f.container.isLevel <;> rfl
      rw [List.countP_cons, hlevel]
      omega

/-- A list stands in something that is none. -/
theorem exists_of_isList (h : Nested room (f :: rest)) (hf : f.container.isList = true) :
    ∃ g rest', rest = g :: rest' ∧ g.container.isList = false := by
  cases h with
  | document hdocument =>
      rw [hdocument] at hf
      cases hf
  | @inside _ _ g rest' hadmits =>
      refine ⟨g, rest', rfl, ?_⟩
      cases hcontainer : f.container with
      | list marker => simpa [hcontainer, Opened.admits] using hadmits
      | document | quote | item width =>
          rw [hcontainer] at hf
          cases hf

/-- What is left in the end is the document. -/
theorem holds_of_singleton (h : Nested room [f]) : ∀ b ∈ f.blocks, b.Nests false maxLevels := by
  cases h with
  | document hf hblocks =>
      rw [Frame.Holds, hf] at hblocks
      exact hblocks

end Nested

theorem exists_closeFrames_eq (f : Frame) (rest : List Frame) :
    ∃ g, Spine.closeFrames rest.length (f :: rest) = [g] := by
  induction rest generalizing f with
  | nil => exact ⟨f, rfl⟩
  | cons g rest ih => exact ih _

namespace Spine

def inList (s : Spine) : Bool := s.frames.head?.any (·.container.isList)

/-- What holds of everything that is open, after every line. -/
structure WellNested (s : Spine) : Prop where
  nested : ∃ room, Nested room s.frames
  /-- No leaf is open right in a list. -/
  leaf : ∀ {leaf}, s.leaf = some leaf → s.inList = false

variable {s : Spine}

/-- Blocks without blocks in them may be added anywhere but in a list. -/
theorem WellNested.add (h : s.WellNested) (hlist : s.inList = false) (hb : b.isLeaf = true) :
    (s.add b).WellNested ∧ (s.add b).inList = false := by
  obtain ⟨frames, leaf, definitions⟩ := s
  obtain ⟨⟨room, hnested⟩, -⟩ := h
  cases frames with
  | nil => cases hnested
  | cons f rest =>
      have hf : f.container.isList = false := hlist
      have hnests : b.Nests f.container.isList room := hf ▸ .leaf hb
      exact ⟨⟨⟨room, hnested.add hnests⟩, fun _ => hf⟩, hf⟩

@[simp] theorem leaf_add (s : Spine) (b : Block) : (s.add b).leaf = s.leaf := by
  unfold add
  split <;> rfl

theorem WellNested.setLeaf (h : s.WellNested) (hlist : s.inList = false) (leaf : Option OpenLeaf) :
    { s with leaf }.WellNested :=
  ⟨h.nested, fun _ => hlist⟩

theorem WellNested.define (h : s.WellNested) (lines : List (List Char)) :
    (s.define lines).1.WellNested :=
  ⟨h.nested, h.leaf⟩

theorem WellNested.closeLeaf (h : s.WellNested) :
    s.closeLeaf.WellNested ∧ s.closeLeaf.leaf = none := by
  unfold Spine.closeLeaf
  cases hleaf : s.leaf with
  | none => exact ⟨h, hleaf⟩
  | some leaf =>
      have hlist : s.inList = false := h.leaf hleaf
      have hclosed : { s with leaf := none }.WellNested := h.setLeaf hlist _
      cases leaf with
      | paragraph lines =>
          dsimp only
          split
          · exact ⟨hclosed.define lines, rfl⟩
          · exact ⟨((hclosed.define lines).add hlist rfl).1, leaf_add ..⟩
      | indented lines | fenced fence lines | html ending lines =>
          exact ⟨(hclosed.add hlist rfl).1, leaf_add ..⟩

theorem WellNested.closeTo (h : s.WellNested) (keep : Nat) : (s.closeTo keep).WellNested := by
  obtain ⟨⟨⟨room, hnested⟩, -⟩, hleaf⟩ := h.closeLeaf
  exact ⟨hnested.closeFrames, fun hopen => nomatch hleaf.symm.trans hopen⟩

/-- Once a list is left, other blocks than items may follow. -/
theorem WellNested.leaveList (h : s.WellNested) :
    s.leaveList.WellNested ∧ s.leaveList.inList = false := by
  obtain ⟨frames, leaf, definitions⟩ := s
  obtain ⟨room, hnested⟩ := h.nested
  cases frames with
  | nil => cases hnested
  | cons f rest =>
      cases hf : f.container.isList with
      | false =>
          have hstay : Spine.leaveList ⟨f :: rest, leaf, definitions⟩ =
              ⟨f :: rest, leaf, definitions⟩ := if_neg (by simp [hf])
          rw [hstay]
          exact ⟨h, hf⟩
      | true =>
          obtain ⟨g, rest, rfl, hg⟩ := hnested.exists_of_isList hf
          have hleaf : leaf = none := by
            cases leaf with
            | none => rfl
            | some leaf => cases (h.leaf rfl).symm.trans hf
          subst hleaf
          have hleave : Spine.leaveList ⟨f :: g :: rest, none, definitions⟩ =
              Spine.closeTo ⟨f :: g :: rest, none, definitions⟩ (rest.length + 1) := if_pos hf
          rw [hleave]
          refine ⟨h.closeTo _, ?_⟩
          simpa [inList, Spine.closeTo, Spine.closeLeaf, Nat.add_sub_add_left, closeFrames] using hg

theorem WellNested.addBlock (h : s.WellNested) (hb : b.isLeaf = true) :
    (s.addBlock b).WellNested :=
  (h.leaveList.1.add h.leaveList.2 hb).1

theorem WellNested.openLeaf (h : s.WellNested) (leaf : OpenLeaf) : (s.openLeaf leaf).WellNested :=
  h.leaveList.1.setLeaf h.leaveList.2 _

/-- A quote or a list is begun where there is room for it. -/
theorem WellNested.openLevel (h : s.WellNested) (container : Opened) (hlist : s.inList = false)
    (hlevel : container.isLevel = true) (hroom : s.levels < maxLevels) :
    ∃ room, Nested room (s.openFrame container).frames := by
  obtain ⟨frames, leaf, definitions⟩ := s
  obtain ⟨room, hnested⟩ := h.nested
  have hlevels : room + Spine.levels ⟨frames, leaf, definitions⟩ = maxLevels :=
    hnested.room_add_levels
  cases frames with
  | nil => cases hnested
  | cons f rest =>
      obtain ⟨room, rfl⟩ : ∃ less, room = less + 1 := ⟨room - 1, by omega⟩
      refine ⟨room, Nested.openFrame container ?_ ?_⟩
      · rw [hlevel]
        exact hnested
      · have hf : f.container.isList = false := hlist
        cases container with
        | quote | list marker => simp [Opened.admits, hf]
        | document | item width => cases hlevel

theorem WellNested.beginQuote? {s' : Spine} (h : s.WellNested) (hs' : s.beginQuote? = some s') :
    s'.WellNested := by
  unfold Spine.beginQuote? at hs'
  dsimp only at hs'
  split at hs'
  · rename_i hroom
    cases hs'
    exact ⟨h.leaveList.1.openLevel .quote h.leaveList.2 rfl hroom, fun _ => rfl⟩
  · cases hs'

theorem WellNested.beginItem? {s' : Spine} {marker : ListMarker} {width : Nat} (h : s.WellNested)
    (hs' : s.beginItem? marker width = some s') : s'.WellNested := by
  unfold Spine.beginItem? at hs'
  split at hs'
  · rename_i htake
    cases hs'
    unfold canTake at htake
    split at htake
    · rename_i hframes
      obtain ⟨room, hnested⟩ := h.nested
      rw [hframes] at hnested
      refine ⟨⟨room, ?_⟩, fun _ => rfl⟩
      unfold Spine.openFrame
      rw [hframes]
      exact hnested.openItem rfl
    · cases htake
  · dsimp only at hs'
    split at hs'
    · rename_i hroom
      cases hs'
      obtain ⟨room, hnested⟩ :=
        h.leaveList.1.openLevel (.list marker) h.leaveList.2 rfl hroom
      exact ⟨⟨room, hnested.openItem rfl⟩, fun _ => rfl⟩
    · cases hs'

theorem WellNested.peel (h : s.WellNested) : s.peel.WellNested := by
  unfold Spine.peel
  split
  · rename_i lines hleaf
    exact (h.define lines).setLeaf (h.leaf hleaf) _
  · exact h

theorem WellNested.addHtml (h : s.WellNested) (hlist : s.inList = false) (ending : Html.Ending)
    (lines : List (List Char)) (line : List Char) : (s.addHtml ending lines line).WellNested := by
  have hopen := h.setLeaf hlist (some (.html ending (line :: lines)))
  unfold Spine.addHtml
  dsimp only
  split
  · exact hopen.closeLeaf.1
  · exact hopen

theorem WellNested.addText (h : s.WellNested) (keep : Nat) (tip : Tip) (c : Cursor) :
    (s.addText keep tip c).WellNested := by
  unfold Spine.addText
  split
  · exact h.closeTo keep
  · split
    · rename_i hleaf
      exact h.setLeaf (h.leaf hleaf) _
    · rename_i hleaf
      exact h.setLeaf (h.leaf hleaf) _
    · exact (h.closeTo keep).openLeaf _

theorem WellNested.readRest (h : s.WellNested) (fuel keep : Nat) (tip : Tip) (c : Cursor) :
    (s.readRest fuel keep tip c).WellNested := by
  induction fuel generalizing keep tip c s with
  | zero => exact h.addText keep tip c
  | succ fuel ih =>
      unfold Spine.readRest
      extract_lets isUnderlined s' within
      have hs' : s'.WellNested := by
        unfold s'
        split
        · exact h.peel
        · exact h
      have hclosed := hs'.closeTo keep
      -- One goal for each thing that may begin here, in the order in which they are looked for.
      split
      · rename_i hquote
        obtain ⟨c', -, hquote⟩ := Option.bind_eq_some_iff.mp hquote
        obtain ⟨s'', hs'', heq⟩ := Option.map_eq_some_iff.mp hquote
        cases heq
        exact ih (hclosed.beginQuote? hs'') ..
      split
      · exact hclosed.addBlock rfl
      split
      · exact hclosed.openLeaf _
      split
      · exact hclosed.leaveList.1.addHtml hclosed.leaveList.2 ..
      split
      · have hleafless : { s' with leaf := none }.WellNested := ⟨hs'.nested, nofun⟩
        exact hleafless.addBlock rfl
      split
      · exact hclosed.addBlock rfl
      split
      · rename_i hitem
        obtain ⟨item, -, hitem⟩ := Option.bind_eq_some_iff.mp hitem
        obtain ⟨s'', hs'', heq⟩ := Option.map_eq_some_iff.mp hitem
        cases heq
        exact ih (hclosed.beginItem? hs'') ..
      split
      · exact hclosed.openLeaf _
      · exact hs'.addText keep tip c

theorem WellNested.readLine (h : s.WellNested) (line : List Char) :
    (s.readLine line).WellNested := by
  unfold Spine.readLine
  generalize goOn s.leaf.isSome { rest := line } s.frames.reverse = start
  obtain ⟨keep, c⟩ := start
  dsimp only
  have hrest (tip : Tip) : (s.readRest (line.length + 1) keep tip c).WellNested := h.readRest ..
  split
  · exact hrest _
  cases hleaf : s.leaf with
  | none => exact hrest _
  | some leaf =>
      have hlist : s.inList = false := h.leaf hleaf
      cases leaf with
      | paragraph lines =>
          dsimp only
          split
          · exact h.closeLeaf.1
          · exact hrest _
      | fenced fence lines =>
          dsimp only
          split
          · exact h.closeLeaf.1
          · exact h.setLeaf hlist _
      | html ending lines =>
          cases ending with
          | blank =>
              dsimp only
              split
              · exact h.closeLeaf.1
              · exact h.addHtml hlist ..
          | within marks => exact h.addHtml hlist ..
      | indented lines =>
          dsimp only
          split
          · exact h.setLeaf hlist _
          split
          · exact h.setLeaf hlist _
          · exact hrest _

/-- Nothing but the document is left open in the end. -/
theorem exists_frames_closeTo_one (h : s.WellNested) : ∃ f, (s.closeTo 1).frames = [f] := by
  obtain ⟨room, hnested⟩ := h.closeLeaf.1.nested
  change ∃ f, closeFrames (s.closeLeaf.frames.length - 1) s.closeLeaf.frames = [f]
  cases hframes : s.closeLeaf.frames with
  | nil =>
      rw [hframes] at hnested
      cases hnested
  | cons f rest => exact exists_closeFrames_eq f rest

theorem WellNested.finish (h : s.WellNested) : ∀ b ∈ s.finish.1, b.Nests false maxLevels := by
  obtain ⟨f, hf⟩ := exists_frames_closeTo_one h
  obtain ⟨room, hnested⟩ := (h.closeTo 1).nested
  rw [hf] at hnested
  intro b hb
  change b ∈ (s.closeTo 1).frames.flatMap (·.blocks.reverse) at hb
  rw [hf, List.flatMap_singleton, List.mem_reverse] at hb
  exact hnested.holds_of_singleton b hb

end Spine

variable {taskLists : Bool} {readText : List Char → List Token}

end RichText.Markdown
