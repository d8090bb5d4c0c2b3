import RichText.Proofs.Render.Colors
import RichText.Proofs.Render.Faults
import RichText.Proofs.Render.Texts

/-! # Leaving out targets that run code

A tree is rendered twice, with all targets of links and without those that run code. Both renderings
fail alike, and their runs differ in nothing but the target. Leaving out the target of a link may
bring out the target of a link inside it. -/

namespace RichText

/-! ## Runs that differ in one attribute -/

/-- Two runs that differ in one attribute at most. -/
structure Run.AgreesBut (k : Key) (a b : Run) : Prop where
  text_eq : a.text = b.text
  get_eq : ∀ k', k' ≠ k → a.attributes.get k' = b.attributes.get k'

namespace Run.AgreesBut

variable {k : Key} {a b : Run}

theorem refl (a : Run) : a.AgreesBut k a := ⟨rfl, fun _ _ => rfl⟩

theorem set (h : a.AgreesBut k b) (k' : Key) (s : Slot k'.Value) :
    (a.set k' s).AgreesBut k (b.set k' s) := by
  refine ⟨h.text_eq, ?_⟩
  intro k'' hk
  by_cases heq : k'' = k'
  · subst heq
    exact (Attributes.get_set_self ..).trans (Attributes.get_set_self ..).symm
  · exact (Attributes.get_set_of_ne _ _ heq).trans
      ((h.get_eq k'' hk).trans (Attributes.get_set_of_ne _ _ heq).symm)

theorem set_left (h : a.AgreesBut k b) (s : Slot k.Value) : (a.set k s).AgreesBut k b :=
  ⟨h.text_eq, fun k' hk => (Attributes.get_set_of_ne _ _ hk).trans (h.get_eq k' hk)⟩

theorem set_right (h : a.AgreesBut k b) (s : Slot k.Value) : a.AgreesBut k (b.set k s) :=
  ⟨h.text_eq, fun k' hk => (h.get_eq k' hk).trans (Attributes.get_set_of_ne _ _ hk).symm⟩

theorem addTraits (h : a.AgreesBut k b) (hk : k ≠ .font) (backend : Backend) (traits : Traits)
    (size : Option Float) :
    (a.addTraits backend traits size).AgreesBut k (b.addTraits backend traits size) := by
  have hfont : a.font? = b.font? := congrArg Slot.value? (h.get_eq .font hk.symm)
  unfold Run.addTraits
  rw [hfont]
  cases b.font? with
  | none => exact h
  | some font => exact h.set .font _

end Run.AgreesBut

/-! ## Targets -/

namespace Link

theorem isDangerous_iff (target : List Char) :
    isDangerous target = true ↔
      ∃ opening ∈ dangerousOpenings, opening.toList <+: Text.lower target := by
  simp [isDangerous, List.any_eq_true]

theorem isOk_target (safe : Bool) (destination : String) :
    (target safe destination).isOk =
      ((checkTarget destination.toList).isOk && !(safe && isDangerous destination.toList)) := by
  unfold target
  cases checkTarget destination.toList with
  | error fault => rfl
  | ok _ =>
      change Except.isOk (if _ then _ else _) = _
      cases safe && isDangerous destination.toList <;> rfl

end Link

namespace Container

/-- Of the targets those that run code are left out, and no others. -/
theorem target?_true_eq_some_iff (c : Container) (target : String) :
    c.target? true = some target ↔
      c.target? false = some target ∧ Link.isDangerous target.toList = false := by
  unfold target?
  split
  · rename_i destination title
    simp only [Link.isOk_target, Bool.true_and, Bool.false_and, Bool.not_false, Bool.and_true]
    cases hcheck : (Link.checkTarget destination.toList).isOk with
    | false => simp
    | true =>
        simp only [Bool.true_and, if_true, Option.some.injEq]
        constructor
        · intro h
          split at h
          · rename_i hsafe
            cases h
            exact ⟨rfl, by simpa using hsafe⟩
          · cases h
        · rintro ⟨rfl, hsafe⟩
          rw [hsafe]
          rfl
  · simp

theorem target?_true_eq_none {c : Container} (h : c.target? false = none) :
    c.target? true = none := by
  by_contra hsome
  obtain ⟨target, htarget⟩ := Option.ne_none_iff_exists'.mp hsome
  rw [((c.target?_true_eq_some_iff target).mp htarget).1] at h
  cases h

variable {within : List Container} {target : String}

theorem isDangerous_of_findSome?_target?
    (h : within.findSome? (·.target? true) = some target) :
    Link.isDangerous target.toList = false := by
  obtain ⟨c, -, hc⟩ := List.exists_of_findSome?_eq_some h
  exact ((c.target?_true_eq_some_iff target).mp hc).2

theorem findSome?_target?_true_eq_none (h : within.findSome? (·.target? false) = none) :
    within.findSome? (·.target? true) = none := by
  rw [List.findSome?_eq_none_iff] at h ⊢
  exact fun c hc => target?_true_eq_none (h c hc)

/-- Where the outermost target does not run code, no target further in comes out. -/
theorem findSome?_target?_true_eq_some (h : within.findSome? (·.target? false) = some target)
    (hsafe : Link.isDangerous target.toList = false) :
    within.findSome? (·.target? true) = some target := by
  induction within with
  | nil => cases h
  | cons c within ih =>
      rw [List.findSome?_cons] at h ⊢
      cases hc : c.target? false with
      | some found =>
          rw [hc] at h
          cases h
          rw [(c.target?_true_eq_some_iff target).mpr ⟨hc, hsafe⟩]
      | none =>
          rw [hc] at h
          rw [target?_true_eq_none hc]
          exact ih h

end Container

/-! ## Both renderings of a tree -/

/-- What becomes of a run when the targets that run code are left out. -/
structure Run.MadeSafe (before after : Run) : Prop where
  agree : before.AgreesBut .link after
  /-- No target that is left starts like code, in whatever case it is written. -/
  safe : ∀ target, after.attributes.link = .value target →
    ∀ opening ∈ Link.dangerousOpenings, ¬ opening.toList <+: Text.lower target.toList
  absent_of_absent : before.attributes.link = .absent → after.attributes.link = .absent
  link_eq : ∀ target, before.attributes.link = .value target →
    (∀ opening ∈ Link.dangerousOpenings, ¬ opening.toList <+: Text.lower target.toList) →
      after.attributes.link = .value target

namespace Renderer

variable (r : Renderer)

/-- The same renderer with targets that run code left out or not. -/
def droppingUnsafe (safe : Bool) : Renderer :=
  { r with options := { r.options with dropUnsafeLinks := safe } }

variable {r}

theorem agreesBut_dress {a b : Run} (h : a.AgreesBut .link b) (c : Container) :
    ((r.droppingUnsafe false).dress c a).AgreesBut .link ((r.droppingUnsafe true).dress c b) := by
  cases c with
  | emphasis | strong | heading level => exact h.addTraits nofun _ _ _
  | strikethrough => exact h.set .strikethrough _
  | blockQuote => exact h.set .foregroundColor _
  | link destination title =>
      have hcolored := h.set .foregroundColor (.value r.options.linkColor)
      simp only [dress]
      cases ((r.droppingUnsafe false).linkTarget destination).value with
      | none =>
          cases ((r.droppingUnsafe true).linkTarget destination).value with
          | none => exact hcolored
          | some target => exact hcolored.set_right _
      | some target =>
          cases ((r.droppingUnsafe true).linkTarget destination).value with
          | none => exact hcolored.set_left _
          | some target' => exact (hcolored.set_left _).set_right _
  | _ => exact h

theorem agreesBut_runOf (p : Piece) :
    ((r.droppingUnsafe false).runOf p).AgreesBut .link ((r.droppingUnsafe true).runOf p) := by
  induction p with
  | bare o => exact .refl _
  | inside c p ih => exact agreesBut_dress ih c

theorem link_runOf_droppingUnsafe (safe : Bool) (p : Piece) :
    ((r.droppingUnsafe safe).runOf p).attributes.link =
      match p.within.findSome? (·.target? safe) with
      | some target => .value target
      | none => .absent :=
  ((r.droppingUnsafe safe).colorsOf_runOf p).link_eq

theorem findSome?_target?_of_link {safe : Bool} {p : Piece} {target : String}
    (h : ((r.droppingUnsafe safe).runOf p).attributes.link = .value target) :
    p.within.findSome? (·.target? safe) = some target := by
  rw [link_runOf_droppingUnsafe] at h
  split at h <;> cases h
  assumption

theorem madeSafe_runOf (p : Piece) :
    ((r.droppingUnsafe false).runOf p).MadeSafe ((r.droppingUnsafe true).runOf p) where
  agree := agreesBut_runOf p
  safe := by
    intro target htarget opening hopening hbegins
    have hsafe := Container.isDangerous_of_findSome?_target? (findSome?_target?_of_link htarget)
    rw [(Link.isDangerous_iff _).mpr ⟨opening, hopening, hbegins⟩] at hsafe
    cases hsafe
  absent_of_absent := by
    intro habsent
    have hnone : p.within.findSome? (·.target? false) = none := by
      rw [link_runOf_droppingUnsafe] at habsent
      split at habsent <;> cases habsent
      assumption
    rw [link_runOf_droppingUnsafe, Container.findSome?_target?_true_eq_none hnone]
  link_eq := by
    intro target htarget hopenings
    have hsafe : Link.isDangerous target.toList = false := by
      rw [← Bool.not_eq_true, Link.isDangerous_iff]
      rintro ⟨opening, hopening, hbegins⟩
      exact hopenings opening hopening hbegins
    have hfound := findSome?_target?_of_link htarget
    rw [link_runOf_droppingUnsafe, Container.findSome?_target?_true_eq_some hfound hsafe]

theorem fault?_render_droppingUnsafe {α : Type} {tree : Node α} {path : List Nat} {n : Node Place}
    (hn : tree.placed.at? path = some n) (safe : Bool) :
    ((r.droppingUnsafe safe).render n).fault? = (r.render n).fault? := by
  rw [fault?_render_of_at? _ hn, fault?_render_of_at? _ hn]
  rfl

/-- Whether targets that run code are left out makes no difference to how a rendering ends, to the
texts and to all other attributes. If they are, no run leads to one of them, and a run that led to
another target still does. -/
theorem render_droppingUnsafe {α : Type} (r : Renderer) (tree : Node α) (path : List Nat)
    {n : Node Place} (hn : tree.placed.at? path = some n) :
    (∀ fault, ((r.droppingUnsafe false).render n).result = .error fault ↔
        ((r.droppingUnsafe true).render n).result = .error fault) ∧
      ∀ before, ((r.droppingUnsafe false).render n).result = .ok before →
        ∃ after, ((r.droppingUnsafe true).render n).result = .ok after ∧
          List.Forall₂ Run.MadeSafe before.runs after.runs := by
  have hfault : ((r.droppingUnsafe false).render n).fault? =
      ((r.droppingUnsafe true).render n).fault? :=
    (fault?_render_droppingUnsafe hn false).trans (fault?_render_droppingUnsafe hn true).symm
  constructor
  · intro fault
    rw [← Traced.fault?_eq_some_iff, ← Traced.fault?_eq_some_iff, hfault]
  · intro before hbefore
    have hnone := (Traced.fault?_eq_none_iff _).mpr ⟨before, hbefore⟩
    obtain ⟨after, hafter⟩ := (Traced.fault?_eq_none_iff _).mp (hfault.symm.trans hnone)
    refine ⟨after, hafter, ?_⟩
    rw [(shows_render hn hbefore).runs_eq, (shows_render hn hafter).runs_eq,
      List.forall₂_map_left_iff, List.forall₂_map_right_iff, List.forall₂_same]
    exact fun p _ => madeSafe_runOf p

end Renderer

/-- A link that runs code around a link that does not, each around some text. -/
def Tree.codeAroundLink : Tree :=
  .branch (.link (some "JavaScript:f()") none) [
    .text "a",
    .branch (.link (some "target") none) [.text "b"]]

/-- Without the outer target the inner one comes out. -/
theorem render_droppingUnsafe_codeAroundLink :
    Tree.codeAroundLink.placed.at? [] = some Tree.codeAroundLink.placed ∧
      ∃ before after,
        (((Renderer.mk {} .fixed).droppingUnsafe false).render Tree.codeAroundLink.placed).result =
          .ok before ∧
        (((Renderer.mk {} .fixed).droppingUnsafe true).render Tree.codeAroundLink.placed).result =
          .ok after ∧
        List.Forall₂ Run.MadeSafe before.runs after.runs ∧
        before.runs.map (·.attributes.link.value?) =
          [some "JavaScript:f()", some "JavaScript:f()"] ∧
        after.runs.map (·.attributes.link.value?) = [none, some "target"] := by
  obtain ⟨before, hbefore⟩ := Traced.exists_result_eq_ok
    (x := ((Renderer.mk {} .fixed).droppingUnsafe false).render Tree.codeAroundLink.placed)
    (by decide +kernel)
  have hplaced : Tree.codeAroundLink.placed.at? [] = some Tree.codeAroundLink.placed := rfl
  obtain ⟨-, hsafe⟩ := Renderer.render_droppingUnsafe (Renderer.mk {} .fixed) _ _ hplaced
  obtain ⟨after, hafter, hruns⟩ := hsafe before hbefore
  refine ⟨hplaced, before, after, hbefore, hafter, hruns, ?_, ?_⟩
  · rw [(Renderer.shows_render hplaced hbefore).runs_eq]
    decide +kernel
  · rw [(Renderer.shows_render hplaced hafter).runs_eq]
    decide +kernel

end RichText
