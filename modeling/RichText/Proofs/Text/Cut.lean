import RichText.Text.Cut

/-! # Cuts of a text

What cutting a text gives, said without cutting it: where the first occurrence of a character is,
where the last one is, and how a text begins. -/

namespace RichText.Text

/-- What stands before the first `c` of a text, and what stands behind it if there is one. -/
inductive CutAt (c : Char) : List Char → List Char → Option (List Char) → Prop where
  | nowhere {s} (h : c ∉ s) : CutAt c s s none
  | behind {before} (after) (h : c ∉ before) : CutAt c (before ++ c :: after) before (some after)

variable {c : Char} {s : List Char}

theorem CutAt.cut_eq {before : List Char} {after : Option (List Char)}
    (h : CutAt c s before after) : cut c s = (before, after) := by
  cases h with
  | nowhere h =>
      induction s with
      | nil => rfl
      | cons d s ih =>
          have hd := List.ne_of_not_mem_cons h
          have hs := List.not_mem_of_not_mem_cons h
          rw [cut, if_neg (Ne.symm hd), ih hs]
  | behind after h =>
      induction before with
      | nil => simp [cut]
      | cons d before ih =>
          have hd := List.ne_of_not_mem_cons h
          have hbefore := List.not_mem_of_not_mem_cons h
          rw [List.cons_append, cut, if_neg (Ne.symm hd), ih hbefore]

theorem cutAt_cut (c : Char) (s : List Char) : CutAt c s (cut c s).1 (cut c s).2 := by
  induction s with
  | nil => exact .nowhere List.not_mem_nil
  | cons d s ih =>
      by_cases hd : d = c
      · subst hd
        rw [cut, if_pos rfl]
        exact CutAt.behind s List.not_mem_nil
      · rw [cut, if_neg hd]
        generalize cut c s = parts at ih
        obtain ⟨before, after⟩ := parts
        cases ih with
        | nowhere h => exact .nowhere (List.not_mem_cons_of_ne_of_not_mem (Ne.symm hd) h)
        | behind after h =>
            rw [← List.cons_append]
            exact .behind after (List.not_mem_cons_of_ne_of_not_mem (Ne.symm hd) h)

/-- What stands behind the last `c` of a text, or all of it. -/
def IsLastPart (c : Char) (s part : List Char) : Prop :=
  c ∉ part ∧ (s = part ∨ ∃ before, s = before ++ c :: part)

theorem isLastPart_afterLast (c : Char) (s : List Char) : IsLastPart c s (afterLast c s) := by
  induction s with
  | nil => exact ⟨List.not_mem_nil, .inl rfl⟩
  | cons d s ih =>
      obtain ⟨hnot, hpart⟩ := ih
      by_cases hmem : c ∈ s
      · rw [afterLast, if_pos (List.contains_iff_mem.mpr hmem)]
        refine ⟨hnot, .inr ?_⟩
        rcases hpart with heq | ⟨before, heq⟩
        · exact absurd (heq ▸ hmem) hnot
        · exact ⟨d :: before, by rw [List.cons_append, ← heq]⟩
      · rw [afterLast, if_neg (mt List.contains_iff_mem.mp hmem)]
        by_cases hd : d = c
        · rw [if_pos hd]
          exact ⟨hmem, .inr ⟨[], by rw [hd]; rfl⟩⟩
        · rw [if_neg hd]
          exact ⟨List.not_mem_cons_of_ne_of_not_mem (Ne.symm hd) hmem, .inl rfl⟩

theorem IsLastPart.afterLast_eq {part : List Char} (h : IsLastPart c s part) :
    afterLast c s = part := by
  obtain ⟨hnot, rfl | ⟨before, rfl⟩⟩ := h
  · obtain ⟨-, heq | ⟨before, heq⟩⟩ := isLastPart_afterLast c s
    · exact heq.symm
    · exact absurd (heq ▸ List.mem_append_right before List.mem_cons_self) hnot
  · induction before with
    | nil => simp [afterLast, hnot]
    | cons d before ih => simpa [afterLast] using ih

theorem IsLastPart.suffix {part : List Char} (h : IsLastPart c s part) : part <:+ s := by
  obtain ⟨-, rfl | ⟨before, rfl⟩⟩ := h
  · exact List.suffix_rfl
  · exact ⟨before ++ [c], by simp⟩

theorem dropStart?_eq_some_iff {start s rest : List Char} :
    dropStart? start s = some rest ↔ s = start ++ rest := by
  induction start generalizing s with
  | nil => exact Option.some_inj
  | cons c start ih =>
      cases s with
      | nil => simp [dropStart?]
      | cons d s =>
          by_cases h : c = d
          · simp [dropStart?, h, ih]
          · simp [dropStart?, h, Ne.symm h]

end RichText.Text
