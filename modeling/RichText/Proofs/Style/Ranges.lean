import Mathlib.Data.List.Forall2
import RichText.Style.Ranges

/-! # Ranges of runs

The ranges of a styled text lie one behind the other, from its start to its end, and each of them
cuts its run's text out of the text of all runs. -/

namespace RichText

/-! ## Spans without a gap -/

section

variable {α : Type} {m n i : Nat} {s t : Span α} {spans : List (Span α)}

/-- A span lies on a character. -/
def Span.Covers (s : Span α) (i : Nat) : Prop := s.start ≤ i ∧ i < s.stop

/-- The characters of a text that a span lies on. -/
def Span.cut (s : Span α) (text : String) : String :=
  .ofList ((text.toList.drop s.start).take (s.stop - s.start))

theorem Span.length_cut (s : Span α) {text : String} (h : s.stop ≤ text.length) :
    (s.cut text).length = s.stop - s.start := by
  rw [Span.cut, String.length_ofList, List.length_take, List.length_drop, String.length_toList]
  omega

/-- Each span starts where the one before it stops, the first at `m`, and the last stops at `n`. -/
inductive Tiles : Nat → Nat → List (Span α) → Prop
  | nil (n : Nat) : Tiles n n []
  | cons {start stop last : Nat} {value : α} {rest : List (Span α)} (hle : start ≤ stop)
      (hrest : Tiles stop last rest) : Tiles start last (⟨start, stop, value⟩ :: rest)

namespace Tiles

theorem le (h : Tiles m n spans) : m ≤ n := by
  induction h with
  | nil => exact Nat.le_refl _
  | cons hle _ ih => exact Nat.le_trans hle ih

theorem start_le (h : Tiles m n spans) (hs : s ∈ spans) : m ≤ s.start := by
  induction h with
  | nil => cases hs
  | cons hle _ ih =>
    rcases List.mem_cons.mp hs with rfl | hs
    · exact Nat.le_refl _
    · exact Nat.le_trans hle (ih hs)

theorem stop_le (h : Tiles m n spans) (hs : s ∈ spans) : s.stop ≤ n := by
  induction h with
  | nil => cases hs
  | cons _ hrest ih =>
    rcases List.mem_cons.mp hs with rfl | hs
    · exact hrest.le
    · exact ih hs

theorem exists_start (h : Tiles m n spans) (hne : spans ≠ []) : ∃ s ∈ spans, s.start = m := by
  cases h with
  | nil => exact (hne rfl).elim
  | cons => exact ⟨_, List.mem_cons_self, rfl⟩

theorem exists_stop (h : Tiles m n spans) (hne : spans ≠ []) : ∃ s ∈ spans, s.stop = n := by
  induction h with
  | nil => exact (hne rfl).elim
  | cons _ hrest ih =>
    cases hrest with
    | nil => exact ⟨_, List.mem_cons_self, rfl⟩
    | cons =>
      obtain ⟨s, hs, hstop⟩ := ih (List.cons_ne_nil _ _)
      exact ⟨s, List.mem_cons_of_mem _ hs, hstop⟩

/-- No character lies on two spans. -/
theorem eq_of_covers (h : Tiles m n spans) (hs : s ∈ spans) (ht : t ∈ spans) (hsi : s.Covers i)
    (hti : t.Covers i) : s = t := by
  induction h with
  | nil => cases hs
  | cons _ hrest ih =>
    rcases List.mem_cons.mp hs with rfl | hs <;> rcases List.mem_cons.mp ht with rfl | ht
    · rfl
    · exact absurd (Nat.le_trans (hrest.start_le ht) hti.1) (Nat.not_le.mpr hsi.2)
    · exact absurd (Nat.le_trans (hrest.start_le hs) hsi.1) (Nat.not_le.mpr hti.2)
    · exact ih hs ht

/-- The values do not matter. -/
theorem map {β : Type} (f : α → β) (h : Tiles m n spans) :
    Tiles m n (spans.map fun s => (⟨s.start, s.stop, f s.value⟩ : Span β)) := by
  induction h with
  | nil => exact .nil _
  | cons hle _ ih => exact .cons hle ih

end Tiles

end

/-! ## The runs of a text -/

namespace StyledText

variable {r : Run} {rs rs' : List Run}

theorem text_cons : text ⟨r :: rs⟩ = r.text ++ text ⟨rs⟩ := String.join_cons

theorem text_append : text ⟨rs ++ rs'⟩ = text ⟨rs⟩ ++ text ⟨rs'⟩ := by
  rw [text, List.map_append, String.join_append]
  rfl

theorem length_cons : length ⟨r :: rs⟩ = r.length + length ⟨rs⟩ := by
  rw [length, text_cons, String.length_append]
  rfl

theorem length_singleton : length ⟨[r]⟩ = r.length := length_cons

theorem length_append : length ⟨rs ++ rs'⟩ = length ⟨rs⟩ + length ⟨rs'⟩ := by
  rw [length, text_append, String.length_append]
  rfl

theorem rangesFrom_append (n : Nat) :
    rangesFrom n (rs ++ rs') = rangesFrom n rs ++ rangesFrom (n + length ⟨rs⟩) rs' := by
  induction rs generalizing n with
  | nil => rfl
  | cons r rs ih =>
    rw [List.cons_append, rangesFrom, rangesFrom, ih, length_cons, Nat.add_assoc]
    rfl

theorem tiles_rangesFrom (n : Nat) (rs : List Run) :
    Tiles n (n + length ⟨rs⟩) (rangesFrom n rs) := by
  induction rs generalizing n with
  | nil => exact .nil n
  | cons r rs ih =>
    rw [length_cons, ← Nat.add_assoc]
    exact .cons (Nat.le_add_right _ _) (ih _)

theorem exists_mem_of_mem_rangesFrom {n : Nat} {s : Span Attributes} (h : s ∈ rangesFrom n rs) :
    ∃ r ∈ rs, s.value = r.attributes := by
  induction rs generalizing n with
  | nil => cases h
  | cons r rs ih =>
    rcases List.mem_cons.mp h with rfl | h
    · exact ⟨r, List.mem_cons_self, rfl⟩
    · obtain ⟨r', hr', heq⟩ := ih h
      exact ⟨r', List.mem_cons_of_mem _ hr', heq⟩

/-- Each range cuts its run's text out of a text in which the runs stand behind others. -/
theorem forall₂_rangesFrom (before rs : List Run) :
    List.Forall₂ (fun s r => s.cut (text ⟨before ++ rs⟩) = r.text ∧ s.value = r.attributes)
      (rangesFrom (length ⟨before⟩) rs) rs := by
  induction rs generalizing before with
  | nil => exact .nil
  | cons r rs ih =>
    have hrest := ih (before ++ [r])
    rw [List.append_assoc, length_append, length_cons] at hrest
    refine .cons ⟨?_, rfl⟩ hrest
    rw [text_append, text_cons, Span.cut, Nat.add_sub_cancel_left, length, Run.length,
      String.toList_append, String.toList_append, ← String.length_toList, ← String.length_toList,
      List.drop_left, List.take_left, String.ofList_toList]

end StyledText

end RichText
