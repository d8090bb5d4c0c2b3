import RichText.Log

/-! # Results of computations that report

What a computation gives does not depend on what was reported on the way: its result is composed of
the results of its steps, and it succeeds if and only if every step does. What it reports is put
together from the reports of its steps, up to the step that fails. -/

namespace RichText

@[simp] theorem Logged.value_map {α β : Type} (f : α → β) (x : Logged α) :
    (f <$> x).value = f x.value := rfl

@[simp] theorem Logged.log_map {α β : Type} (f : α → β) (x : Logged α) :
    (f <$> x).log = x.log := List.append_nil x.log

namespace Traced

variable {ε α β : Type}

@[simp] theorem result_pure (a : α) : (pure a : Traced ε α).result = .ok a := rfl

@[simp] theorem result_throw (e : ε) : (throw e : Traced ε α).result = .error e := rfl

theorem result_bind (x : Traced ε α) (f : α → Traced ε β) :
    (x >>= f).result = x.result >>= fun a => (f a).result := by
  change (andThen x f).result = _
  unfold andThen
  cases x.result <;> rfl

/-- A sequence of two steps succeeds if and only if both do. -/
theorem result_bind_eq_ok_iff (x : Traced ε α) (f : α → Traced ε β) (b : β) :
    (x >>= f).result = .ok b ↔ ∃ a, x.result = .ok a ∧ (f a).result = .ok b := by
  rw [result_bind]
  cases x.result with
  | error e =>
      constructor
      · intro h
        cases h
      · rintro ⟨a, ha, -⟩
        cases ha
  | ok a =>
      constructor
      · intro h
        exact ⟨a, rfl, h⟩
      · rintro ⟨a', ha, h⟩
        cases ha
        exact h

@[simp] theorem result_liftM_bind (x : Logged α) (f : α → Traced ε β) :
    ((liftM x : Traced ε α) >>= f).result = (f x.value).result := by
  rw [result_bind]
  rfl

/-- Applying a function to the outcome neither makes a computation fail nor mends it. -/
theorem result_map_eq_ok_iff (f : α → β) (x : Traced ε α) (b : β) :
    (f <$> x).result = .ok b ↔ ∃ a, x.result = .ok a ∧ f a = b := by
  change (x >>= fun a => pure (f a)).result = .ok b ↔ _
  rw [result_bind_eq_ok_iff]
  simp

theorem exists_result_eq_ok {x : Traced ε α} (h : x.result.isOk = true) :
    ∃ a, x.result = .ok a := by
  cases hx : x.result with
  | error e =>
      rw [hx] at h
      cases h
  | ok a => exact ⟨a, rfl⟩

/-! ### Faults -/

/-- The fault that ends a computation, if it does not succeed. -/
def fault? (x : Traced ε α) : Option ε :=
  match x.result with
  | .error e => some e
  | .ok _ => none

@[simp] theorem fault?_pure (a : α) : (pure a : Traced ε α).fault? = none := rfl

@[simp] theorem fault?_map (f : α → β) (x : Traced ε α) : (f <$> x).fault? = x.fault? := by
  change (x >>= fun a => pure (f a)).fault? = x.fault?
  unfold fault?
  rw [result_bind]
  cases x.result <;> rfl

@[simp] theorem fault?_liftM_bind (x : Logged α) (f : α → Traced ε β) :
    ((liftM x : Traced ε α) >>= f).fault? = (f x.value).fault? := by
  unfold fault?
  rw [result_liftM_bind]

theorem fault?_eq_some_iff (x : Traced ε α) (e : ε) : x.fault? = some e ↔ x.result = .error e := by
  unfold fault?
  cases x.result <;> simp

theorem fault?_eq_none_iff (x : Traced ε α) : x.fault? = none ↔ ∃ a, x.result = .ok a := by
  unfold fault?
  cases x.result <;> simp

/-- Of a sequence of two steps the first fault counts. The second step need only be known where the
first one succeeds. -/
theorem fault?_bind {x : Traced ε α} {f : α → Traced ε β} {o : Option ε}
    (h : ∀ a, x.result = .ok a → (f a).fault? = o) : (x >>= f).fault? = x.fault?.or o := by
  cases hx : x.result with
  | error e =>
      have hbind : (x >>= f).result = .error e := by
        rw [result_bind, hx]
        rfl
      rw [(fault?_eq_some_iff _ e).mpr hbind, (fault?_eq_some_iff _ e).mpr hx]
      rfl
  | ok a =>
      have hbind : (x >>= f).result = (f a).result := by
        rw [result_bind, hx]
        rfl
      have hnone : x.fault? = none := (fault?_eq_none_iff x).mpr ⟨a, hx⟩
      rw [hnone, Option.none_or, ← h a hx]
      unfold fault?
      rw [hbind]

/-! ### Reports -/

/-- What a computation reports if every step of it is taken. One that fails leaves off somewhere on
the way. -/
def Reports (x : Traced ε α) (events : List Event) : Prop :=
  match x.result with
  | .ok _ => x.log = events
  | .error _ => x.log <+: events

theorem reports_pure (a : α) : (pure a : Traced ε α).Reports [] := rfl

theorem reports_throw (e : ε) (events : List Event) : (throw e : Traced ε α).Reports events :=
  List.nil_prefix

theorem reports_report (e : Event) : (report e : Traced ε Unit).Reports [e] := rfl

/-- The steps of a sequence report in turn. The second step need only be known where the first one
succeeds. -/
theorem Reports.bind {x : Traced ε α} {f : α → Traced ε β} {before after : List Event}
    (hx : x.Reports before) (hf : ∀ a, x.result = .ok a → (f a).Reports after) :
    (x >>= f).Reports (before ++ after) := by
  change (andThen x f).Reports _
  unfold Reports at hx ⊢
  unfold andThen
  cases hresult : x.result with
  | error e =>
      rw [hresult] at hx
      exact hx.trans (List.prefix_append before after)
  | ok a =>
      rw [hresult] at hx
      have hrest := hf a hresult
      unfold Reports at hrest
      dsimp only at hx ⊢
      cases h : (f a).result with
      | error e =>
          rw [h] at hrest
          rw [hx]
          exact (List.prefix_append_right_inj before).mpr hrest
      | ok b =>
          rw [h] at hrest
          rw [hx, hrest]

/-- The second step may have nothing to report. -/
theorem Reports.bind_nil {x : Traced ε α} {f : α → Traced ε β} {events : List Event}
    (hx : x.Reports events) (hf : ∀ a, (f a).Reports []) : (x >>= f).Reports events := by
  rw [← List.append_nil events]
  exact hx.bind fun a _ => hf a

/-- Applying a function to the outcome reports nothing. -/
theorem Reports.map {x : Traced ε α} {events : List Event} (hx : x.Reports events) (f : α → β) :
    (f <$> x).Reports events :=
  hx.bind_nil fun a => reports_pure (f a)

theorem reports_liftM_bind {x : Logged α} {f : α → Traced ε β} {before after : List Event}
    (hx : x.log = before) (hf : (f x.value).Reports after) :
    ((liftM x : Traced ε α) >>= f).Reports (before ++ after) := by
  have hlift : (liftM x : Traced ε α).Reports before := hx
  refine hlift.bind fun a ha => ?_
  cases ha
  exact hf

end Traced

end RichText
