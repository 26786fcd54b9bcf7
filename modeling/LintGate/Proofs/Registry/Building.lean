/-
Building a registry.

Whether the linters of a configuration can be run is looked into once, when its registry is built:
each name that a language lists must stand for a linter, one of the user's or one that the gate
knows, and its command must have a word (`Config.Runnable`). The names are gone through without
repetitions, which makes no difference to what is found first (`Config.findSome?_firsts`). So what
is told is wrong with the first name that offends, in the first language by name that lists one
(`Config.ofConfig_error_iff`).
-/
import LintGate.Proofs.Registry.Started

set_option autoImplicit false

namespace LintGate

open Registry (unknownLinter invalidCommand resolve resolveAll ofConfig)

/-! ## What a configuration defines -/

namespace Config

variable {config : Config} {name : String} {spec : LinterSpec} {e : LintError}

/-- What a name stands for in a configuration: the linter that the user gives it, or else the gate's. -/
inductive Defines (config : Config) (name : String) : LinterSpec → Prop where
  | user {spec : LinterSpec} (hspec : config.linters.lookup name = some spec) : Defines config name spec
  | builtin {spec : LinterSpec} (hnone : config.linters.lookup name = none)
      (hspec : builtinLinter? name = some spec) : Defines config name spec

/-- A name stands for a linter whose command starts with a program. -/
def Runs (config : Config) (name program : String) : Prop :=
  ∃ spec rest, config.Defines name spec ∧ Text.words? spec.command = some (program :: rest)

/-- A name stands for a linter whose command has a word. -/
def Runnable (config : Config) (name : String) : Prop := ∃ program, config.Runs name program

/-- What is wrong with a name: it stands for no linter, or for one whose command has no words. -/
inductive Offends (config : Config) (name : String) : LintError → Prop where
  | unknown (hnone : ∀ spec, ¬config.Defines name spec) : Offends config name (unknownLinter name)
  | invalid {spec : LinterSpec} (hspec : config.Defines name spec)
      (hempty : ∀ program rest, Text.words? spec.command ≠ some (program :: rest)) :
      Offends config name (invalidCommand name spec.command)

theorem linter?_eq_some_iff : config.linter? name = some spec ↔ config.Defines name spec := by
  unfold linter?
  cases hlookup : config.linters.lookup name with
  | some spec' =>
    constructor
    · intro h
      cases h
      exact .user hlookup
    · intro h
      cases h with
      | user hspec => exact hlookup.symm.trans hspec
      | builtin hnone =>
        rw [hlookup] at hnone
        cases hnone
  | none =>
    constructor
    · exact .builtin hlookup
    · intro h
      cases h with
      | user hspec =>
        rw [hlookup] at hspec
        cases hspec
      | builtin _ hspec => exact hspec

/-- A name is resolved exactly if it can be run. -/
theorem exists_resolve_iff : (∃ spec, resolve config name = .ok spec) ↔ config.Runnable name := by
  constructor
  · rintro ⟨spec, h⟩
    obtain ⟨hspec, program, hprogram⟩ := Registry.resolve_eq_ok h
    obtain ⟨rest, hwords⟩ := Registry.program?_eq_some_iff.mp hprogram
    exact ⟨program, spec, rest, linter?_eq_some_iff.mp hspec, hwords⟩
  · rintro ⟨program, spec, rest, hspec, hwords⟩
    refine ⟨spec, ?_⟩
    unfold resolve
    rw [linter?_eq_some_iff.mpr hspec]
    exact if_pos (Registry.isRunnable_iff.mpr ⟨program, rest, hwords⟩)

/-- A name stands for one linter at most. -/
theorem Defines.unique {spec' : LinterSpec} (h : config.Defines name spec)
    (h' : config.Defines name spec') : spec = spec' := by
  rw [← linter?_eq_some_iff] at h h'
  exact Option.some.inj (h.symm.trans h')

/-- A name that offends cannot be run. -/
theorem Offends.not_runnable (h : config.Offends name e) : ¬config.Runnable name := by
  rintro ⟨program, spec, rest, hspec, hwords⟩
  cases h with
  | unknown hnone => exact hnone spec hspec
  | invalid hspec' hempty =>
    rw [hspec.unique hspec'] at hwords
    exact hempty program rest hwords

/-- One thing at most is wrong with a name. -/
theorem Offends.unique {e' : LintError} (h : config.Offends name e) (h' : config.Offends name e') :
    e = e' := by
  cases h with
  | unknown hnone =>
    cases h' with
    | unknown => rfl
    | invalid hspec => exact absurd hspec (hnone _)
  | invalid hspec =>
    cases h' with
    | unknown hnone => exact absurd hspec (hnone _)
    | invalid hspec' => rw [hspec.unique hspec']

theorem offends_of_resolve (h : resolve config name = .error e) : config.Offends name e := by
  unfold resolve at h
  cases hlinter : config.linter? name with
  | none =>
    rw [hlinter] at h
    cases h
    apply Offends.unknown
    intro spec hspec
    rw [linter?_eq_some_iff.mpr hspec] at hlinter
    cases hlinter
  | some spec =>
    rw [hlinter] at h
    dsimp only at h
    by_cases hrunnable : Registry.isRunnable spec.command = true
    · rw [if_pos hrunnable] at h
      cases h
    · rw [if_neg hrunnable] at h
      cases h
      apply Offends.invalid (linter?_eq_some_iff.mp hlinter)
      intro program rest hwords
      exact hrunnable (Registry.isRunnable_iff.mpr ⟨program, rest, hwords⟩)

/-- A name that is not resolved is refused for what is wrong with it. -/
theorem resolve_error_iff : resolve config name = .error e ↔ config.Offends name e := by
  constructor
  · exact offends_of_resolve
  · intro h
    cases hresolve : resolve config name with
    | error e' => rw [(offends_of_resolve hresolve).unique h]
    | ok spec => exact absurd (exists_resolve_iff.mp ⟨spec, hresolve⟩) h.not_runnable

/-! ## The first that offends -/

/-- What is wrong with a name, if something is. -/
def offence? (config : Config) (name : String) : Option LintError :=
  match resolve config name with
  | .error e => some e
  | .ok _ => none

theorem offence?_eq_some_iff : config.offence? name = some e ↔ config.Offends name e := by
  rw [← resolve_error_iff, offence?]
  cases resolve config name with
  | error e' => simp
  | ok spec => simp

theorem offence?_eq_none_iff : config.offence? name = none ↔ config.Runnable name := by
  rw [← exists_resolve_iff, offence?]
  cases resolve config name with
  | error e => simp
  | ok spec => simp

/-- Looking through names, it makes no difference to leave those out that came before. -/
theorem findSome?_firsts {α : Type} (f : String → Option α) (names : List String) :
    (firsts names).findSome? f = names.findSome? f := by
  have hseen : ∀ seen : List String,
      (names.foldl (fun seen n => if seen.contains n then seen else seen ++ [n]) seen).findSome? f =
        (seen ++ names).findSome? f := by
    induction names with
    | nil =>
      intro seen
      rw [List.foldl_nil, List.append_nil]
    | cons n rest ih =>
      intro seen
      rw [List.foldl_cons, ih]
      by_cases hcontains : seen.contains n = true
      · -- where the name came before, it has been looked at
        rw [if_pos hcontains, List.findSome?_append, List.findSome?_append, List.findSome?_cons]
        cases hfound : seen.findSome? f with
        | some a => rfl
        | none =>
          rw [List.findSome?_eq_none_iff.mp hfound n (List.contains_iff_mem.mp hcontains)]
      · rw [if_neg hcontains, List.append_assoc, List.singleton_append]
  exact hseen []

theorem resolveAll_error_iff {names : List String} :
    resolveAll config names = .error e ↔ names.findSome? config.offence? = some e := by
  induction names with
  | nil =>
    apply iff_of_false
    · intro h
      cases h
    · intro h
      cases h
  | cons name rest ih =>
    rw [resolveAll, List.findSome?_cons, offence?]
    cases resolve config name with
    | error e' => simp [bind, Except.bind]
    | ok spec =>
      dsimp only
      rw [← ih]
      cases resolveAll config rest with
      | error e' => simp [bind, Except.bind]
      | ok linters => simp [bind, Except.bind, pure, Except.pure]

theorem ofConfig_error_findSome?_iff : ofConfig config = .error e ↔
    (config.languages.findSome? fun l => l.2.linters.findSome? config.offence?) = some e := by
  have hflat : ∀ languages : List (String × Language),
      (languages.flatMap fun l => l.2.linters).findSome? config.offence? =
        languages.findSome? fun l => l.2.linters.findSome? config.offence? := by
    intro languages
    induction languages with
    | nil => rfl
    | cons l rest ih =>
      rw [List.flatMap_cons, List.findSome?_append, ih, List.findSome?_cons]
      cases l.2.linters.findSome? config.offence? <;> rfl
  rw [← hflat, ← findSome?_firsts, ← enabledLinters, ← resolveAll_error_iff, ofConfig]
  cases resolveAll config config.enabledLinters with
  | error e' => simp [bind, Except.bind]
  | ok linters => simp [bind, Except.bind, pure, Except.pure]

/-- **A registry is built exactly if all linters that a language lists can be run.** -/
theorem exists_ofConfig_iff : (∃ r, ofConfig config = .ok r) ↔
    ∀ l ∈ config.languages, ∀ name ∈ l.2.linters, config.Runnable name := by
  have hoffence : (∀ l ∈ config.languages, ∀ name ∈ l.2.linters, config.Runnable name) ↔
      (config.languages.findSome? fun l => l.2.linters.findSome? config.offence?) = none := by
    simp only [List.findSome?_eq_none_iff, offence?_eq_none_iff]
  rw [hoffence]
  cases hregistry : ofConfig config with
  | error e =>
    rw [ofConfig_error_findSome?_iff.mp hregistry]
    simp
  | ok r =>
    apply iff_of_true
    · exact ⟨r, rfl⟩
    · rw [Option.eq_none_iff_forall_ne_some]
      intro e h
      rw [ofConfig_error_findSome?_iff.mpr h] at hregistry
      cases hregistry

/-- **Otherwise the first that offends is told**: it stands first in its language, and no language of a
smaller name lists another. -/
theorem ofConfig_error_iff (hnames : Ascending config.languages) : ofConfig config = .error e ↔
    ∃ l ∈ config.languages, ∃ before name after, l.2.linters = before ++ name :: after ∧
      config.Offends name e ∧ (∀ n ∈ before, config.Runnable n) ∧
      ∀ l' ∈ config.languages, l'.1 < l.1 → ∀ n ∈ l'.2.linters, config.Runnable n := by
  rw [ofConfig_error_findSome?_iff]
  simp only [List.findSome?_eq_some_iff, List.findSome?_eq_none_iff, offence?_eq_some_iff,
    offence?_eq_none_iff]
  constructor
  · rintro ⟨front, l, back, hsplit, ⟨before, name, after, hlist, hoffends, hbefore⟩, hfront⟩
    refine ⟨l, by simp [hsplit], before, name, after, hlist, hoffends, hbefore, ?_⟩
    intro l' hl' hlt
    rw [Ascending, hsplit, List.pairwise_append, List.pairwise_cons] at hnames
    rw [hsplit, List.mem_append, List.mem_cons] at hl'
    rcases hl' with hl' | rfl | hl'
    · exact hfront l' hl'
    · exact absurd hlt (String.lt_irrefl _)
    · -- behind it stand larger names
      exact absurd (String.lt_trans hlt (hnames.2.1.1 l' hl')) (String.lt_irrefl _)
  · rintro ⟨l, hl, before, name, after, hlist, hoffends, hbefore, hsmaller⟩
    obtain ⟨front, back, hsplit⟩ := List.append_of_mem hl
    refine ⟨front, l, back, hsplit, ⟨before, name, after, hlist, hoffends, hbefore⟩, ?_⟩
    intro l' hl'
    rw [Ascending, hsplit, List.pairwise_append] at hnames
    apply hsmaller l'
    · rw [hsplit]
      exact List.mem_append_left _ hl'
    · exact hnames.2.2 l' hl' l List.mem_cons_self

end Config

end LintGate
