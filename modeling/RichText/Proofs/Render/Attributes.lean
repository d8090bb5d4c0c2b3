import RichText.Proofs.Render.Runs

/-! # Attributes of a rendering

Apart from the font, a container writes an attribute over all runs inside it or leaves it alone.
What is written last stands, so the outermost container that writes an attribute decides it; where
none does, the run keeps what it started with. -/

namespace RichText

theorem Run.get_addTraits (backend : Backend) (traits : Traits) (size : Option Float) (run : Run)
    {k : Key} (hk : k ≠ .font) :
    (run.addTraits backend traits size).attributes.get k = run.attributes.get k := by
  unfold addTraits
  split
  · exact Attributes.get_set_of_ne _ _ hk
  · rfl

/-- A target is the destination itself. -/
theorem Link.eq_of_target {safe : Bool} {destination target : String}
    (h : Link.target safe destination = .ok target) : target = destination := by
  unfold Link.target at h
  cases hcheck : Link.checkTarget destination.toList with
  | error fault =>
      rw [hcheck] at h
      cases h
  | ok _ =>
      rw [hcheck] at h
      change (if _ then _ else _) = _ at h
      split at h <;> cases h
      rfl

/-- The destination of a link that accepts it as a target. -/
def Container.target? (safe : Bool) : Container → Option String
  | .link (some destination) _ =>
    if (Link.target safe destination).isOk then some destination else none
  | _ => none

namespace Renderer

variable (r : Renderer)

theorem value_linkTarget (destination title : Option String) :
    (r.linkTarget destination).value =
      (Container.link destination title).target? r.options.dropUnsafeLinks := by
  cases destination with
  | none => rfl
  | some d =>
      simp only [linkTarget, Container.target?]
      cases h : Link.target r.options.dropUnsafeLinks d with
      | error fault => rfl
      | ok target =>
          rw [Link.eq_of_target h]
          rfl

/-- The colour that links and quotes give to what is inside them. -/
def color? : Container → Option Color
  | .link _ _ => some r.options.linkColor
  | .blockQuote => some r.options.mutedColor
  | _ => none

/-- What a container writes over an attribute of all runs inside it, if it does. Fonts are changed
and not written. -/
def written (c : Container) : (k : Key) → Option k.Value
  | .foregroundColor => r.color? c
  | .strikethrough => if c.kind = .strikethrough then some .single else none
  | .link => c.target? r.options.dropUnsafeLinks
  | .font | .paragraphStyle | .nestingDepth => none

theorem get_dress (c : Container) (run : Run) {k : Key} (hk : k ≠ .font) :
    (r.dress c run).attributes.get k =
      ((r.written c k).map .value).getD (run.attributes.get k) := by
  cases c with
  | emphasis | strong | heading level =>
      rw [dress, Run.get_addTraits _ _ _ _ hk]
      cases k <;> rfl
  | link destination title =>
      simp only [dress, r.value_linkTarget destination title]
      cases h : (Container.link destination title).target? r.options.dropUnsafeLinks <;>
        cases k <;>
          simp_all [written, color?, Run.set, Attributes.set, Attributes.get, Container.kind]
  | _ => cases k <;> rfl

/-- The outermost container that writes an attribute decides it. -/
theorem get_runOf (p : Piece) {k : Key} (hk : k ≠ .font) :
    (r.runOf p).attributes.get k =
      ((p.within.findSome? (r.written · k)).map .value).getD
        ((r.originAttributes p.origin).get k) := by
  induction p with
  | bare o => rfl
  | inside c p ih =>
      rw [runOf_inside, r.get_dress c _ hk, ih]
      simp only [Piece.inside, List.findSome?_cons]
      cases r.written c k <;> rfl

/-- An attribute that no container writes stays as it is. -/
theorem get_runOf_of_unwritten (p : Piece) {k : Key} (hk : k ≠ .font)
    (hnone : ∀ c, r.written c k = none) :
    (r.runOf p).attributes.get k = (r.originAttributes p.origin).get k := by
  rw [r.get_runOf p hk, List.findSome?_eq_none_iff.mpr fun c _ => hnone c]
  rfl

end Renderer

end RichText
