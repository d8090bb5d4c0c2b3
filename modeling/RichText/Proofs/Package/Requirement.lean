import RichText.Package.Requirement

/-! # Dependencies of a component

A component can be used if and only if every dependency is met. Otherwise the shortfall lists those
that are not, in the order of the table: the ones that cannot be imported, and the ones whose
versions will not do. This holds of any scheme of versions. -/

namespace RichText.Package

/-! ## Versions that will do -/

theorem exists_eq_ok_of_isOk {ε α : Type} {x : Except ε α} (h : x.isOk = true) :
    ∃ a, x = .ok a := by
  cases x with
  | error e => cases h
  | ok a => exact ⟨a, rfl⟩

section

variable [Versioning]

/-- A text can be read as a version. An empty one is none, whatever the scheme. -/
def IsVersion (text : String) : Prop :=
  text ≠ "" ∧ (Versioning.readVersion text).isOk = true

def AreSpecifiers (text : String) : Prop := (Versioning.readSpecifiers text).isOk = true

instance (text : String) : Decidable (IsVersion text) := inferInstanceAs (Decidable (_ ∧ _))

instance (text : String) : Decidable (AreSpecifiers text) := inferInstanceAs (Decidable (_ = true))

/-- There is a version, and the scheme says that it satisfies the specifiers. -/
def Satisfied (installed : Option String) (specifiers : String) : Prop :=
  ∃ text ∈ installed, ∃ v ∈ (Versioning.readVersion text).toOption,
    ∃ wanted ∈ (Versioning.readSpecifiers specifiers).toOption, Versioning.allows wanted v = true

instance (installed : Option String) (specifiers : String) :
    Decidable (Satisfied installed specifiers) :=
  inferInstanceAs (Decidable (∃ _ ∈ _, ∃ _ ∈ _, ∃ _ ∈ _, _ = true))

/-- Where everything can be read, a package is judged by whether its version will do. -/
theorem meets_eq {installed : Option String} {specifiers : String}
    (hversion : ∀ text ∈ installed, IsVersion text) (hspecifiers : AreSpecifiers specifiers) :
    meets installed specifiers = .ok (decide (Satisfied installed specifiers), installed) := by
  cases installed with
  | none => simp [meets, Satisfied]
  | some text =>
      obtain ⟨hne, hread⟩ := hversion text rfl
      obtain ⟨v, hv⟩ := exists_eq_ok_of_isOk hread
      obtain ⟨wanted, hwanted⟩ := exists_eq_ok_of_isOk hspecifiers
      have hsatisfied : decide (Satisfied (some text) specifiers) =
          Versioning.allows wanted v := by
        rw [Bool.eq_iff_iff, decide_eq_true_eq]
        simp [Satisfied, hv, hwanted, Except.toOption]
      have hsatisfies : satisfies text specifiers = .ok (Versioning.allows wanted v) := by
        rw [satisfies, hwanted, hv]
        rfl
      rw [hsatisfied, meets, hsatisfies]
      · rfl
      · exact hne

/-! ## Tables of dependencies -/

namespace Environment

variable (env : Environment)

/-- Whatever is installed of a package is a version. -/
def HasVersions : Prop := ∀ package, ∀ text ∈ env.installed.lookup package, IsVersion text

def Imports (d : Dependency) : Prop := d.module ∈ env.importable

/-- If there are specifiers, a version is installed that satisfies them. -/
def Suits (r : Requirement) : Prop :=
  r.specifiers ≠ "" → Satisfied (env.installed.lookup r.package) r.specifiers

/-- Nothing is wrong with a dependency. -/
def Meets (d : Dependency) : Prop := env.Imports d ∧ env.Suits d.toRequirement

instance (d : Dependency) : Decidable (env.Imports d) := inferInstanceAs (Decidable (_ ∈ _))

instance (r : Requirement) : Decidable (env.Suits r) := inferInstanceAs (Decidable (_ → _))

instance (d : Dependency) : Decidable (env.Meets d) := inferInstanceAs (Decidable (_ ∧ _))

def missing (ds : List Dependency) : List Dependency := ds.filter fun d => ¬ env.Imports d

/-- The dependencies that can be imported, but whose versions will not do. -/
def mismatched (ds : List Dependency) : List Dependency :=
  ds.filter fun d => env.Imports d ∧ ¬ env.Suits d.toRequirement

def mismatch (r : Requirement) : Mismatch :=
  { r with installed := (env.installed.lookup r.package).getD "unknown" }

end Environment

section Table

variable {env : Environment} {s : Shortfall} {d : Dependency} {ds : List Dependency}

theorem lacking_cons_of_not_imports (h : ¬ env.Imports d) :
    lacking env s (d :: ds) = lacking env { s with
      missing := s.missing ++ [d.toRequirement]
      cause := some (s.cause.getD (noModule d.module)) } ds := by
  have hmissing : (!env.importable.contains d.module) = true := by
    simpa [Environment.Imports] using h
  rw [lacking, if_pos hmissing]

theorem lacking_cons_of_imports (henv : env.HasVersions) (hd : AreSpecifiers d.specifiers)
    (h : env.Imports d) :
    lacking env s (d :: ds) =
      if env.Suits d.toRequirement then lacking env s ds
      else lacking env { s with
        mismatched := s.mismatched ++ [env.mismatch d.toRequirement] } ds := by
  have hfound : ¬ (!env.importable.contains d.module) = true := by
    simpa [Environment.Imports] using h
  rw [lacking, if_neg hfound, meets_eq (henv d.package) hd]
  by_cases hempty : d.specifiers = ""
  · have hsuits : env.Suits d.toRequirement := fun hne => absurd hempty hne
    rw [if_pos (String.isEmpty_iff.mpr hempty), if_pos hsuits]
  · have hsuits : env.Suits d.toRequirement ↔
        Satisfied (env.installed.lookup d.package) d.specifiers :=
      forall_prop_of_true hempty
    rw [if_neg fun h => hempty (String.isEmpty_iff.mp h)]
    by_cases hsatisfied : Satisfied (env.installed.lookup d.package) d.specifiers
    · rw [if_pos (hsuits.mpr hsatisfied), decide_eq_true hsatisfied]
      rfl
    · rw [if_neg ((not_congr hsuits).mpr hsatisfied), decide_eq_false hsatisfied]
      rfl

/-- What a table lacks is noted behind what was noted before, and the first module that cannot be
imported is the cause unless there is one already. -/
theorem lacking_eq (henv : env.HasVersions) (hds : ∀ d ∈ ds, AreSpecifiers d.specifiers)
    (s : Shortfall) :
    lacking env s ds = .ok { s with
      missing := s.missing ++ (env.missing ds).map (·.toRequirement)
      mismatched := s.mismatched ++ (env.mismatched ds).map fun d => env.mismatch d.toRequirement
      cause := s.cause.or ((env.missing ds).head?.map fun d => noModule d.module) } := by
  -- What was noted before is general, as each step notes what it finds before the rest is looked at.
  induction ds generalizing s with
  | nil => simp [lacking, Environment.missing, Environment.mismatched]
  | cons d ds ih =>
      obtain ⟨hd, hds⟩ := List.forall_mem_cons.mp hds
      by_cases himports : env.Imports d
      · rw [lacking_cons_of_imports henv hd himports]
        by_cases hsuits : env.Suits d.toRequirement
        · rw [if_pos hsuits, ih hds]
          simp [Environment.missing, Environment.mismatched, himports, hsuits]
        · rw [if_neg hsuits, ih hds]
          simp [Environment.missing, Environment.mismatched, himports, hsuits]
      · rw [lacking_cons_of_not_imports himports, ih hds]
        simp [Environment.missing, Environment.mismatched, himports]

end Table

/-! ## The shortfall of a table -/

namespace Environment

variable (env : Environment) (component : String) (ds : List Dependency)

/-- What a component lacks that needs all of a table. -/
def shortfall : Shortfall where
  component
  missing := (env.missing ds).map (·.toRequirement)
  mismatched := (env.mismatched ds).map fun d => env.mismatch d.toRequirement
  cause := (env.missing ds).head?.map fun d => noModule d.module

theorem unmet_shortfall : (env.shortfall component ds).unmet =
    (env.missing ds ++ env.mismatched ds).map (·.toRequirement) := by
  rw [Shortfall.unmet, shortfall, List.map_append, List.map_map]
  rfl

/-- What is missing and what is mismatched is together all that is not met. -/
theorem missing_append_mismatched_perm :
    (env.missing ds ++ env.mismatched ds).Perm (ds.filter fun d => ¬ env.Meets d) := by
  have hparts := List.filter_append_perm (fun d => decide ¬ env.Imports d)
    (ds.filter fun d => ¬ env.Meets d)
  have hmissing : (ds.filter fun d => ¬ env.Meets d).filter (fun d => ¬ env.Imports d) =
      env.missing ds := by
    rw [List.filter_filter, missing]
    refine List.filter_congr fun d _ => ?_
    by_cases h : env.Imports d <;> simp [Meets, h]
  have hmismatched : (ds.filter fun d => ¬ env.Meets d).filter (fun d => !decide ¬ env.Imports d) =
      env.mismatched ds := by
    rw [List.filter_filter, mismatched]
    refine List.filter_congr fun d _ => ?_
    by_cases h : env.Imports d <;> simp [Meets, h]
  rwa [hmissing, hmismatched] at hparts

theorem not_mem_mismatched_of_mem_missing {d : Dependency} (h : d ∈ env.missing ds) :
    d ∉ env.mismatched ds := by
  intro hmismatched
  have himports := of_decide_eq_true (List.mem_filter.mp hmismatched).2
  exact of_decide_eq_true (List.mem_filter.mp h).2 himports.1

theorem unmet_shortfall_eq_nil_iff :
    (env.shortfall component ds).unmet = [] ↔ ∀ d ∈ ds, env.Meets d := by
  have hperm := env.missing_append_mismatched_perm ds
  rw [unmet_shortfall, List.map_eq_nil_iff, ← List.perm_nil, hperm.congr_left, List.perm_nil]
  simp

/-- The command names all that is not met, what is missing first. -/
theorem message_shortfall (h : ¬ ∀ d ∈ ds, env.Meets d) :
    (env.shortfall component ds).message =
      "\n".intercalate (env.shortfall component ds).complaints ++
        "\nInstall with: pip install --upgrade " ++ " ".intercalate
          ((env.missing ds ++ env.mismatched ds).map (Shortfall.argument ·.toRequirement)) := by
  have hunmet : (env.shortfall component ds).unmet ≠ [] :=
    fun hnil => h ((env.unmet_shortfall_eq_nil_iff component ds).mp hnil)
  have hcommand : (!(env.shortfall component ds).command.isEmpty) = false := rfl
  rw [Shortfall.message, Shortfall.advice, hcommand, if_neg Bool.false_ne_true,
    if_neg fun hempty => hunmet (List.isEmpty_iff.mp hempty), unmet_shortfall, List.map_map,
    String.append_assoc]
  rfl

end Environment

theorem require_eq {env : Environment} {ds : List Dependency} (component : String)
    (henv : env.HasVersions) (hds : ∀ d ∈ ds, AreSpecifiers d.specifiers) :
    require env component ds =
      if ∀ d ∈ ds, env.Meets d then .ok ()
      else .error (.shortfall (env.shortfall component ds)) := by
  have hlacking : lacking env { component } ds = .ok (env.shortfall component ds) :=
    lacking_eq henv hds _
  rw [require, hlacking]
  dsimp only
  by_cases h : ∀ d ∈ ds, env.Meets d
  · rw [if_pos h, if_pos]
    rw [List.isEmpty_iff, env.unmet_shortfall_eq_nil_iff]
    exact h
  · rw [if_neg h, if_neg]
    rw [List.isEmpty_iff, env.unmet_shortfall_eq_nil_iff]
    exact h

/-- A component can be used if and only if every dependency can be imported and has, if there are
specifiers, a version that satisfies them. Then the work behind the check is done. Otherwise it is
not, and the shortfall lists in the order of the table what cannot be imported, the first of it being
the cause, and what can be imported but has no such version. The command that it advises names all of
this, each entry as often as the table does, and what cannot be imported comes first. -/
theorem outcome_require {env : Environment} {ds : List Dependency} (component : String)
    (henv : env.HasVersions) (hds : ∀ d ∈ ds, AreSpecifiers d.specifiers) :
    (require env component ds = .ok () ↔ ∀ d ∈ ds, env.Imports d ∧
      (d.specifiers ≠ "" → Satisfied (env.installed.lookup d.package) d.specifiers)) ∧
    ((∀ d ∈ ds, env.Meets d) → ∀ {α : Type} (work : Unit → Except DependencyFault α),
      (require env component ds >>= work) = work ()) ∧
    ((∃ d ∈ ds, ¬ env.Meets d) → ∃ s,
      (∀ {α : Type} (work : Unit → Except DependencyFault α),
        (require env component ds >>= work) = .error (.shortfall s)) ∧
      s.component = component ∧
      s.missing = (env.missing ds).map (·.toRequirement) ∧
      s.mismatched = (env.mismatched ds).map (fun d => env.mismatch d.toRequirement) ∧
      (∀ d ∈ env.missing ds, d ∉ env.mismatched ds) ∧
      s.cause = (env.missing ds).head?.map (fun d => noModule d.module) ∧
      s.message = "\n".intercalate s.complaints ++ "\nInstall with: pip install --upgrade " ++
        " ".intercalate ((env.missing ds ++ env.mismatched ds).map
          (Shortfall.argument ·.toRequirement)) ∧
      (env.missing ds ++ env.mismatched ds).Perm (ds.filter fun d => ¬ env.Meets d)) := by
  rw [require_eq component henv hds]
  refine ⟨?_, ?_, ?_⟩
  · change _ ↔ ∀ d ∈ ds, env.Meets d
    split
    case isTrue h => exact ⟨fun _ => h, fun _ => rfl⟩
    case isFalse h => exact ⟨nofun, fun hall => absurd hall h⟩
  · intro hall α work
    rw [if_pos hall]
    rfl
  · rintro ⟨d, hd, hfails⟩
    have hnot : ¬ ∀ d ∈ ds, env.Meets d := fun hall => hfails (hall d hd)
    rw [if_neg hnot]
    exact ⟨env.shortfall component ds, fun _ => rfl, rfl, rfl, rfl,
      fun _ => env.not_mem_mismatched_of_mem_missing ds, rfl,
      env.message_shortfall component ds hnot, env.missing_append_mismatched_perm ds⟩

end

/-- A table in which things are missing, not installed, of the wrong version, and fine. -/
def Dependency.assorted : List Dependency := [
  ⟨⟨"ink", ""⟩, "ink"⟩, ⟨⟨"shape-kit", ">=1.0"⟩, "shapes"⟩,
  ⟨⟨"glyph-kit", "==2.*, !=2.0.*"⟩, "glyphs"⟩, ⟨⟨"glyph-kit", "==2.*"⟩, "glyphs"⟩,
  ⟨⟨"ink", ""⟩, "ink"⟩]

/-- Two modules, of which one comes from a package in a version. -/
def Environment.sparse : Environment where
  importable := ["shapes", "glyphs"]
  installed := [("glyph-kit", "2.0.5")]

theorem outcome_require_assorted :
    Environment.sparse.HasVersions ∧ (∀ d ∈ Dependency.assorted, AreSpecifiers d.specifiers) ∧
      ∃ s, require Environment.sparse "painter" Dependency.assorted = .error (.shortfall s) ∧
        s.missing = [⟨"ink", ""⟩, ⟨"ink", ""⟩] ∧
        s.mismatched =
          [⟨⟨"shape-kit", ">=1.0"⟩, "unknown"⟩, ⟨⟨"glyph-kit", "==2.*, !=2.0.*"⟩, "2.0.5"⟩] ∧
        s.cause = some (noModule "ink") ∧
        ∃ complaints, s.message = complaints ++ "\nInstall with: pip install --upgrade " ++
          "ink ink \"shape-kit>=1.0\" \"glyph-kit==2.*, !=2.0.*\"" := by
  have henv : Environment.sparse.HasVersions := by
    intro package text htext
    rw [Environment.sparse, List.lookup_cons] at htext
    split at htext
    · cases htext
      decide +kernel
    · cases htext
  have hds : ∀ d ∈ Dependency.assorted, AreSpecifiers d.specifiers := by decide +kernel
  have hfails : ∃ d ∈ Dependency.assorted, ¬ Environment.sparse.Meets d := by decide +kernel
  have hmissing : Environment.sparse.missing Dependency.assorted =
      [⟨⟨"ink", ""⟩, "ink"⟩, ⟨⟨"ink", ""⟩, "ink"⟩] := by decide +kernel
  have hmismatched : Environment.sparse.mismatched Dependency.assorted =
      [⟨⟨"shape-kit", ">=1.0"⟩, "shapes"⟩, ⟨⟨"glyph-kit", "==2.*, !=2.0.*"⟩, "glyphs"⟩] := by
    decide +kernel
  obtain ⟨s, hwork, -, hs, hs', -, hcause, hmessage, -⟩ :=
    (outcome_require "painter" henv hds).2.2 hfails
  rw [hmissing] at hs hcause hmessage
  rw [hmismatched] at hs' hmessage
  exact ⟨henv, hds, s, (bind_pure _).symm.trans (hwork pure), hs, hs', hcause, _, hmessage⟩

end RichText.Package
