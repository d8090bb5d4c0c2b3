import RichText.Backend.Fixed
import RichText.Proofs.Link.Authority
import RichText.Proofs.Render.SafeLinks

/-! # Targets of links

A destination is taken as it stands or not at all. Apart from its characters and from what runs code,
nothing but its authority decides, wherever the authority stands in it. -/

namespace RichText

namespace Link

open RichText.Text

/-- What may stand in front of an authority: nothing, or a scheme and a colon. -/
def IsOpening (opening : List Char) : Prop :=
  opening = [] ∨ ∃ scheme, isSchemeName scheme = true ∧ opening = scheme ++ [':']

/-- A target that has an authority, in three parts: what stands in front of the two slashes, the
authority up to the first slash, question mark or number sign, and the rest. -/
structure Splits (target opening authority rest : List Char) : Prop where
  eq : target = opening ++ '/' :: '/' :: (authority ++ rest)
  isOpening : IsOpening opening
  not_ends : ∀ c ∈ authority, endsAuthority c = false
  ends : ∀ c ∈ rest.head?, endsAuthority c = true

/-- A character that prints, is no white space and need not be encoded. -/
def IsAllowed (c : Char) : Prop :=
  isPrintable c = true ∧ isBlank c = false ∧ c ∉ reserved

theorem isTargetChar_iff (c : Char) : isTargetChar c = true ↔ IsAllowed c := by
  simp [isTargetChar, IsAllowed, and_comm, and_assoc]

theorem not_mem_of_isSchemeName {scheme : List Char} (h : isSchemeName scheme = true) :
    ':' ∉ scheme := by
  cases scheme with
  | nil => cases h
  | cons c scheme =>
      intro hmem
      simp only [isSchemeName, Bool.and_eq_true, List.all_eq_true] at h
      rcases List.mem_cons.mp hmem with rfl | hmem
      · exact absurd h.1 (by decide)
      · exact absurd (h.2 _ hmem) (by decide)

/-- A scheme does not begin with a slash, so that an opening is found in one way. -/
theorem afterScheme_append {opening rest : List Char} (h : IsOpening opening) :
    afterScheme (opening ++ '/' :: rest) = '/' :: rest := by
  unfold afterScheme
  rcases h with rfl | ⟨scheme, hscheme, rfl⟩
  · rw [List.nil_append]
    have hcut := cutAt_cut ':' ('/' :: rest)
    generalize cut ':' ('/' :: rest) = parts at hcut
    obtain ⟨name, after⟩ := parts
    generalize hs : '/' :: rest = target at hcut
    cases hcut with
    | nowhere => rfl
    | behind after =>
        -- There is a colon, but the name before it is empty or begins with the slash.
        have hname : isSchemeName name ≠ true := by
          cases name with
          | nil => simp [isSchemeName]
          | cons c name =>
              obtain ⟨rfl, -⟩ := List.cons.inj hs
              simp [isSchemeName]
        exact if_neg hname
  · have hcut := (CutAt.behind ('/' :: rest) (not_mem_of_isSchemeName hscheme)).cut_eq
    rw [List.append_assoc, List.singleton_append, hcut]
    exact if_pos hscheme

/-- What follows an opening is the target without its scheme. -/
theorem exists_opening_append (target : List Char) :
    ∃ opening, IsOpening opening ∧ target = opening ++ afterScheme target := by
  unfold afterScheme
  have hcut := cutAt_cut ':' target
  generalize cut ':' target = parts at hcut
  obtain ⟨name, after⟩ := parts
  cases hcut with
  | nowhere h => exact ⟨[], .inl rfl, rfl⟩
  | behind after h =>
      dsimp only
      split
      · rename_i hscheme
        exact ⟨name ++ [':'], .inr ⟨name, hscheme, rfl⟩, by simp⟩
      · exact ⟨[], .inl rfl, rfl⟩

theorem Splits.authority?_eq {target opening authority rest : List Char}
    (h : Splits target opening authority rest) : authority? target = some authority := by
  unfold authority?
  rw [h.eq, afterScheme_append h.isOpening]
  have htake : (authority ++ rest).takeWhile (!endsAuthority ·) = authority := by
    rw [List.takeWhile_append_of_pos (by simpa using h.not_ends)]
    cases rest with
    | nil => simp
    | cons c rest => simp [h.ends c rfl]
  simp [dropStart?, htake]

theorem exists_splits {target authority : List Char} (h : authority? target = some authority) :
    ∃ opening rest, Splits target opening authority rest := by
  obtain ⟨opening, hopening, heq⟩ := exists_opening_append target
  obtain ⟨behind, hbehind, rfl⟩ := Option.map_eq_some_iff.mp h
  rw [dropStart?_eq_some_iff.mp hbehind] at heq
  refine ⟨opening, behind.dropWhile (!endsAuthority ·), ?_, hopening, ?_, ?_⟩
  · rw [List.takeWhile_append_dropWhile]
    exact heq
  · intro c hc
    simpa using List.all_eq_true.mp List.all_takeWhile c hc
  · intro c hc
    have hhead := List.head?_dropWhile_not (!endsAuthority ·) behind
    rw [Option.mem_def.mp hc] at hhead
    simpa using hhead

/-- A destination passes the checks that do not depend on options if and only if its characters are
allowed and its authority, if it has one, has the form of an authority. -/
theorem isOk_checkTarget_iff (destination : List Char) :
    (checkTarget destination).isOk = true ↔
      destination ≠ [] ∧ (∀ c ∈ destination, IsAllowed c) ∧
        ∀ opening authority rest, Splits destination opening authority rest →
          IsAuthority authority := by
  unfold checkTarget
  have hchars : (destination.isEmpty || !destination.all isTargetChar) = true ↔
      ¬ (destination ≠ [] ∧ ∀ c ∈ destination, IsAllowed c) := by
    simp only [← isTargetChar_iff]
    by_cases hempty : destination = [] <;> simp [hempty]
  by_cases hallowed : destination ≠ [] ∧ ∀ c ∈ destination, IsAllowed c
  · rw [if_neg (by rw [hchars]; exact not_not_intro hallowed), ← and_assoc, and_iff_right hallowed]
    cases hauthority : authority? destination with
    | none =>
        refine iff_of_true rfl ?_
        intro opening authority rest hsplits
        rw [hsplits.authority?_eq] at hauthority
        cases hauthority
    | some authority =>
        have hunique : (∀ opening found rest, Splits destination opening found rest →
            IsAuthority found) ↔ IsAuthority authority := by
          constructor
          · intro h
            obtain ⟨opening, rest, hsplits⟩ := exists_splits hauthority
            exact h opening authority rest hsplits
          · intro h opening found rest hsplits
            rw [hsplits.authority?_eq] at hauthority
            cases hauthority
            exact h
        rw [hunique, ← checkAuthority_eq_ok_iff]
        dsimp only
        cases checkAuthority authority <;> simp [Except.isOk, Except.toBool]
  · rw [if_pos (hchars.mpr hallowed), ← and_assoc]
    simp [hallowed, Except.isOk, Except.toBool]

end Link

namespace Renderer

variable (r : Renderer)

/-- A link with this destination leads there. -/
def Accepts (destination : String) : Prop :=
  (r.linkTarget (some destination)).value = some destination

theorem value_linkTarget_some (destination : String) :
    (r.linkTarget (some destination)).value =
      if (Link.target r.options.dropUnsafeLinks destination).isOk then some destination else none :=
  r.value_linkTarget destination none

theorem accepts_iff (destination : String) :
    r.Accepts destination ↔
      (Link.checkTarget destination.toList).isOk = true ∧
        (r.options.dropUnsafeLinks = true → Link.isDangerous destination.toList = false) := by
  rw [Accepts, value_linkTarget_some, Link.isOk_target]
  cases (Link.checkTarget destination.toList).isOk <;> simp

variable {r}

/-- Where targets that run code are not left out, the form of a destination decides. -/
theorem accepts_iff_of_lenient (hr : r.options.dropUnsafeLinks = false) (destination : String) :
    r.Accepts destination ↔
      destination ≠ "" ∧ (∀ c ∈ destination.toList, Link.IsAllowed c) ∧
        ∀ opening authority rest, Link.Splits destination.toList opening authority rest →
          Link.IsAuthority authority := by
  simp [r.accepts_iff, hr, Link.isOk_checkTarget_iff]

/-- The authority of a destination decides, if the characters are allowed. -/
theorem accepts_iff_isAuthority (hr : r.options.dropUnsafeLinks = false) {destination : String}
    {opening authority rest : List Char}
    (hsplits : Link.Splits destination.toList opening authority rest)
    (hallowed : ∀ c ∈ destination.toList, Link.IsAllowed c) :
    r.Accepts destination ↔ Link.IsAuthority authority := by
  rw [accepts_iff_of_lenient hr]
  constructor
  · rintro ⟨-, -, h⟩
    exact h opening authority rest hsplits
  · intro h
    refine ⟨?_, hallowed, ?_⟩
    · rintro rfl
      simpa using hsplits.eq
    · intro opening' found rest' hsplits'
      have hsame := hsplits.authority?_eq.symm.trans hsplits'.authority?_eq
      cases hsame
      exact h

variable (r)

/-- The check of a destination gives the destination itself or nothing. Where targets that run code
are not left out, it gives a destination that is not empty, whose characters are allowed, and whose
authority, if it has one, has the form of an authority. So what stands around an authority does not
count, and without an authority the characters alone do. -/
theorem verdict_linkTarget (destination : String) :
    ((r.linkTarget (some destination)).value = none ∨
        (r.linkTarget (some destination)).value = some destination) ∧
      (r.options.dropUnsafeLinks = false →
        (r.Accepts destination ↔
          destination ≠ "" ∧ (∀ c ∈ destination.toList, Link.IsAllowed c) ∧
            ∀ opening authority rest, Link.Splits destination.toList opening authority rest →
              Link.IsAuthority authority) ∧
        (∀ opening authority rest, Link.Splits destination.toList opening authority rest →
          (∀ c ∈ destination.toList, Link.IsAllowed c) →
          (r.Accepts destination ↔ r.Accepts ("//" ++ String.ofList authority))) ∧
        (destination ≠ "" → (∀ c ∈ destination.toList, Link.IsAllowed c) →
          (∀ opening, Link.IsOpening opening → ¬ opening ++ ['/', '/'] <+: destination.toList) →
          r.Accepts destination)) := by
  refine ⟨by rw [value_linkTarget_some]; split <;> simp, ?_⟩
  intro hr
  refine ⟨accepts_iff_of_lenient hr destination, ?_, ?_⟩
  · intro opening authority rest hsplits hallowed
    have hbare : Link.Splits ("//" ++ String.ofList authority).toList [] authority [] :=
      ⟨by simp, .inl rfl, hsplits.not_ends, by simp⟩
    rw [accepts_iff_isAuthority hr hsplits hallowed, accepts_iff_isAuthority hr hbare]
    rw [hsplits.eq] at hallowed
    intro c hc
    apply hallowed c
    simp only [String.toList_append, String.toList_ofList, List.mem_append, List.mem_cons] at hc ⊢
    rcases hc with hc | hc
    · exact .inr (.inl (by simpa using hc))
    · exact .inr (.inr (.inr (.inl hc)))
  · intro hne hallowed hnone
    refine (accepts_iff_of_lenient hr destination).mpr ⟨hne, hallowed, ?_⟩
    intro opening authority rest hsplits
    refine absurd ?_ (hnone opening hsplits.isOpening)
    rw [hsplits.eq]
    exact ⟨authority ++ rest, by simp⟩

end Renderer

/-- A user in front of an address in brackets, a port, and a scheme and a path around all of it. -/
theorem Renderer.verdict_linkTarget_address :
    let r : Renderer := { backend := .fixed }
    r.options.dropUnsafeLinks = false ∧
      Link.Splits "http://u@[::1]:80/x".toList "http:".toList "u@[::1]:80".toList "/x".toList ∧
      (∀ c ∈ "http://u@[::1]:80/x".toList, Link.IsAllowed c) ∧
      (r.Accepts "http://u@[::1]:80/x" ↔ r.Accepts ("//" ++ String.ofList "u@[::1]:80".toList)) ∧
      r.Accepts "//u@[::1]:80" := by
  intro r
  have hsplits : Link.Splits "http://u@[::1]:80/x".toList "http:".toList "u@[::1]:80".toList
      "/x".toList :=
    ⟨by decide, .inr ⟨"http".toList, by decide, by decide⟩, by simp [Link.endsAuthority],
      by simp [Link.endsAuthority]⟩
  have hallowed : ∀ c ∈ "http://u@[::1]:80/x".toList, Link.IsAllowed c := by
    simp only [← Link.isTargetChar_iff]
    exact List.all_eq_true.mp (by decide +kernel)
  obtain ⟨-, hverdict⟩ := r.verdict_linkTarget "http://u@[::1]:80/x"
  refine ⟨rfl, hsplits, hallowed, (hverdict rfl).2.1 _ _ _ hsplits hallowed, ?_⟩
  exact (r.accepts_iff _).mpr ⟨by decide +kernel, fun h => nomatch h⟩

end RichText
