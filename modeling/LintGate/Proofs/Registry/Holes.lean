/-
A registry has no holes.

What a registry holds was looked into when it was built. Later its linters are found by other ways:
the languages by extension and mode, the linters in the list that was built. Neither way comes upon
a name that is not there or a command without a word. The check of the programs passes no linter
over, and a call fails for the configuration only where it cannot know better (`Barred`): a program
that is not found when it is started, or reporter scripts that cannot be written.
-/
import LintGate.Proofs.Registry.Answers
import LintGate.Proofs.Registry.Building
import LintGate.Proofs.Registry.Scripts

set_option autoImplicit false

namespace LintGate.Registry

variable {σ : Type} {system : System σ} {config : Config} {r : Registry} {spec : LinterSpec}
  {name program path message : String} {timeout : Nat} {s : Equipped σ}

/-! ## The check of the programs -/

/-- The program with which the command of a name starts, if it has one. -/
def programOf (config : Config) (name : String) : String := (config.program? name).getD ""

theorem runs_programOf (h : ofConfig config = .ok r) {l : String × Language} (hl : l ∈ config.languages)
    (hname : name ∈ l.2.linters) : config.Runs name (programOf config name) := by
  obtain ⟨spec, program, -, hspec, hprogram⟩ := lookup_of_ofConfig h hl hname
  obtain ⟨rest, hwords⟩ := program?_eq_some_iff.mp hprogram
  have hsame : programOf config name = program := by
    rw [programOf, Config.program?, hspec, Option.bind_some, hprogram, Option.getD_some]
  rw [hsame]
  exact ⟨spec, rest, Config.linter?_eq_some_iff.mp hspec, hwords⟩

/-- The linters that a language lists and whose programs are not found, as often as they are listed. -/
def lacking (found : String → Bool) (program : String → String) (l : String × Language) :
    List MissingLinter :=
  (l.2.linters.filter fun name => !found (program name)).map fun name => ⟨l.1, name, program name⟩

/-- No linter is passed over in the check. -/
theorem missingOf_eq (h : ofConfig config = .ok r) (found : String → Bool)
    {languages : List (String × Language)} (hlanguages : ∀ l ∈ languages, l ∈ config.languages) :
    missingOf found r languages = languages.flatMap (lacking found (programOf config)) := by
  unfold missingOf
  apply List.flatMap_congr
  intro l hl
  unfold lacking
  rw [← List.filterMap_eq_map, List.filterMap_filter]
  apply List.filterMap_congr
  intro name hname
  obtain ⟨hlookup, program, hprogram⟩ := bind_program?_of_ofConfig h (hlanguages l hl) hname
  have hsame : programOf config name = program := by rw [programOf, hprogram, Option.getD_some]
  simp only [missingLinter?, hlookup, hprogram, Function.comp_apply, hsame]
  cases found program <;> rfl

/-! ## What is told of the configuration -/

/-- The errors of a configuration that cannot be run. -/
inductive Hole : LintError → Prop where
  | unknown (name : String) : Hole (unknownLinter name)
  | invalid (name command : String) : Hole (invalidCommand name command)
  | unsplit (command : String) : Hole (.config ("invalid command: " ++ command))
  | empty (name : String) : Hole (.config ("empty command for linter \"" ++ name ++ "\""))

/-- Why a linter cannot be used at all in a world: its reporter scripts are not yet written and cannot be,
or it is started and its program is not found. -/
inductive Barred (system : System σ) (timeout : Nat) (name : String) (spec : LinterSpec) (path : String)
    (s : Equipped σ) : String → Prop where
  | scripts {message : String} (huses : spec.reporter ≠ none) (hfirst : s.scripts = none)
      (hscripts : system.Unwritten s.world message) : Barred system timeout name spec path s message
  | program {reporter : Option String} {u : Equipped σ} {program : String} {args : List String}
      (hplace : reporterPlace system.host spec s = (.ok reporter, u))
      (hargv : argv spec path reporter = .ok (program :: args))
      (hmissing : (system.run program args timeout u.world).1 = .notFound) :
      Barred system timeout name spec path s
        ("linter \"" ++ name ++ "\" needs \x60" ++ program ++ "\x60, which is not on PATH")

/-- What is told then is no error of a configuration that cannot be run. -/
theorem Barred.not_hole (h : Barred system timeout name spec path s message) :
    ¬Hole (.config message) := by
  have hletter : message.toList.head? = some 'f' ∨ message.toList.head? = some 'l' := by
    cases h with
    | scripts _ _ hscripts => exact .inl hscripts.head?
    | program => simp
  have hhole : ∀ e, Hole e → ∃ m, e = .config m ∧
      (m.toList.head? = some 'u' ∨ m.toList.head? = some 'i' ∨ m.toList.head? = some 'e') := by
    intro e he
    cases he with
    | unknown name => exact ⟨_, rfl, by simp⟩
    | invalid name command => exact ⟨_, rfl, by simp⟩
    | unsplit command => exact ⟨_, rfl, by simp⟩
    | empty name => exact ⟨_, rfl, by simp⟩
  intro he
  obtain ⟨m, hm, hother⟩ := hhole _ he
  cases hm
  rcases hletter with hletter | hletter
  · simp [hletter] at hother
  · simp [hletter] at hother

theorem judge_config_iff {ending : Ending} :
    judge name program path spec timeout ending = .error (.config message) ↔ ending = .notFound ∧
      message = "linter \"" ++ name ++ "\" needs \x60" ++ program ++ "\x60, which is not on PATH" := by
  rcases judge_cases name program path spec timeout ending with
    ⟨code, out, err, rfl, hdone⟩ | rfl | ⟨told, hjudge⟩
  · rw [judge_exited hdone]
    simp
  · show Except.error (LintError.config _) = _ ↔ _
    simp [eq_comm]
  · rw [hjudge]
    apply iff_of_false
    · simp
    · rintro ⟨rfl, -⟩
      cases hjudge

theorem reporterPlace_error_iff {e : LintError} : (reporterPlace system.host spec s).1 = .error e ↔
    spec.reporter ≠ none ∧
      ∃ message, (system.scriptDirectory s).1 = .error message ∧ e = .config message := by
  unfold reporterPlace
  cases spec.reporter with
  | none =>
    show Except.ok none = _ ↔ _
    simp
  | some reporter =>
    simp only [bind, StateT.bind]
    rw [show system.host.reporterDirectory = system.scriptDirectory from rfl]
    rcases system.scriptDirectory s with ⟨answer, u⟩
    cases answer with
    | error message =>
      show Except.error (LintError.config message) = _ ↔ _
      simp [eq_comm]
    | ok dir =>
      show Except.ok (some (Path.join dir reporter.fileName)) = _ ↔ _
      simp

/-- **A linter that can be run fails for the configuration only if it is barred.** -/
theorem runLinter_config_iff (hprogram : program? spec = some program) :
    (runLinter system.host r name spec path s).1 = .error (.config message) ↔
      Barred system r.timeout name spec path s message := by
  rcases hplace : reporterPlace system.host spec s with ⟨place, u⟩
  cases place with
  | error e =>
    rw [runLinter_unplaced hplace]
    have hfails : (reporterPlace system.host spec s).1 = .error e := by rw [hplace]
    obtain ⟨huses, message', hdirectory, rfl⟩ := reporterPlace_error_iff.mp hfails
    obtain ⟨hfirst, hscripts⟩ := System.scriptDirectory_error_iff.mp hdirectory
    constructor
    · intro h
      cases h
      exact .scripts huses hfirst hscripts
    · intro h
      cases h with
      | scripts _ _ hscripts' =>
        rw [← System.newScripts_error_iff] at hscripts hscripts'
        rw [hscripts] at hscripts'
        cases hscripts'
        rfl
      | program hplace' =>
        rw [hplace] at hplace'
        cases hplace'
  | ok reporter =>
    obtain ⟨args, hargv⟩ := argv_of_program? hprogram path reporter
    rw [runLinter_placed hplace hargv, judge_config_iff]
    constructor
    · rintro ⟨hmissing, rfl⟩
      exact .program hplace hargv hmissing
    · intro h
      cases h with
      | scripts huses hfirst hscripts =>
        -- the scripts were there, or were written
        have hfails : (reporterPlace system.host spec s).1 = .error (.config message) :=
          reporterPlace_error_iff.mpr
            ⟨huses, message, System.scriptDirectory_error_iff.mpr ⟨hfirst, hscripts⟩, rfl⟩
        rw [hplace] at hfails
        cases hfails
      | program hplace' hargv' hmissing =>
        rw [hplace] at hplace'
        cases hplace'
        rw [hargv] at hargv'
        cases hargv'
        exact ⟨hmissing, rfl⟩

/-- **A call fails for the configuration only if it comes to a linter that is barred.** -/
theorem lint_config_iff (h : ofConfig config = .ok r) {mode : Option String} :
    (lint system.host r path mode s).1 = .error (.config message) ↔
      r.handles path mode = true ∧ system.isFile path s.world = true ∧ ∃ name spec s',
        Comes system.host r path (r.lintersFor path mode) s name s' ∧ config.Defines name spec ∧
          Barred system config.timeout name spec path s' message := by
  rw [lint_error_iff h]
  apply and_congr_right
  intro _
  apply and_congr_right
  intro _
  constructor
  · rintro ⟨name, spec, s', hcomes, hlookup, hfails⟩
    obtain ⟨spec', hspec⟩ := holds_lintersFor h hcomes.mem
    obtain rfl : spec' = spec := Option.some.inj (hspec.lookup.symm.trans hlookup)
    obtain ⟨first, hfirst⟩ := hspec.program
    rw [runLinter_config_iff hfirst, hspec.timeout] at hfails
    exact ⟨name, spec', s', hcomes, Config.linter?_eq_some_iff.mp hspec.known, hfails⟩
  · rintro ⟨name, spec, s', hcomes, hdefines, hbarred⟩
    obtain ⟨spec', hspec⟩ := holds_lintersFor h hcomes.mem
    rw [← Config.linter?_eq_some_iff] at hdefines
    obtain rfl : spec' = spec := Option.some.inj (hspec.known.symm.trans hdefines)
    obtain ⟨first, hfirst⟩ := hspec.program
    rw [← hspec.timeout, ← runLinter_config_iff hfirst] at hbarred
    exact ⟨name, spec', s', hcomes, hspec.lookup, hbarred⟩

/-- **A registry that was built has no holes.** It is built exactly if each linter that a language lists is
one of the user's, or else one that the gate knows, with a command that has a word; otherwise what is told
is wrong with the first such linter of the first such language, by name. Of a registry that was built the
check passes no linter over, for the whole configuration or for some paths. On any system a call on a path
tells of no linter that is unknown or that has no command. If it fails for the configuration at all, it
comes to a linter whose program is not found when it is started, or for which the reporter scripts are to
be written and cannot be. -/
theorem ofConfig_leaves_no_hole (hnames : Ascending config.languages) :
    ((∃ r, ofConfig config = .ok r) ↔
      ∀ l ∈ config.languages, ∀ name ∈ l.2.linters, config.Runnable name) ∧
    (∀ e, ofConfig config = .error e ↔
      ∃ l ∈ config.languages, ∃ before name after, l.2.linters = before ++ name :: after ∧
        config.Offends name e ∧ (∀ n ∈ before, config.Runnable n) ∧
        ∀ l' ∈ config.languages, l'.1 < l.1 → ∀ n ∈ l'.2.linters, config.Runnable n) ∧
    ∀ r, ofConfig config = .ok r →
      (∃ program, (∀ l ∈ config.languages, ∀ name ∈ l.2.linters, config.Runs name (program name)) ∧
        ∀ found, missing found r = config.languages.flatMap (lacking found program) ∧
          ∀ paths mode, missingFor found r paths mode =
            (r.neededFor paths mode).flatMap (lacking found program)) ∧
      ∀ (σ : Type) (system : System σ) (path : String) (mode : Option String) (s : Equipped σ),
        (∀ e, (lint system.host r path mode s).1 = .error e → ¬Hole e) ∧
        ∀ message, (lint system.host r path mode s).1 = .error (.config message) ↔
          r.handles path mode = true ∧ system.isFile path s.world = true ∧ ∃ name spec s',
            Comes system.host r path (r.lintersFor path mode) s name s' ∧ config.Defines name spec ∧
              Barred system config.timeout name spec path s' message := by
  refine ⟨Config.exists_ofConfig_iff, fun e => Config.ofConfig_error_iff hnames, ?_⟩
  intro r h
  have hlanguages : r.languages = config.languages := ofConfig_languages h
  refine ⟨⟨programOf config, fun l hl name hname => runs_programOf h hl hname, ?_⟩, ?_⟩
  · intro found
    refine ⟨?_, fun paths mode => missingOf_eq h found ?_⟩
    · rw [missing, hlanguages]
      exact missingOf_eq h found fun l hl => hl
    · intro l hl
      obtain ⟨path, -, hclaims⟩ := List.mem_flatMap.mp ((neededFor_collects r paths mode).sound l hl)
      rw [← hlanguages]
      exact mem_languages_of_mem_languagesFor hclaims
  · intro σ system path mode s
    refine ⟨?_, fun message => lint_config_iff h⟩
    intro e he
    cases e with
    | crash linter path message =>
      intro hhole
      cases hhole
    | config message =>
      obtain ⟨-, -, name, spec, s', -, -, hbarred⟩ := (lint_config_iff h).mp he
      exact hbarred.not_hole

/-- A configuration in which the user has put a linter of the gate's out of use by a comment. -/
def silencedConfig : Config where
  languages := [("javascript", ⟨["js"], ["eslint", "house"]⟩), ("python", ⟨["py"], ["flake8", "nosuch"]⟩)]
  linters := [("flake8", { command := "# none" }), ("house", { command := "house \x7bpath\x7d" })]

theorem ofConfig_leaves_no_hole_silenced : Ascending silencedConfig.languages ∧
    ofConfig silencedConfig = .error (invalidCommand "flake8" "# none") := by
  have hascending : Ascending silencedConfig.languages := by decide
  refine ⟨hascending, ?_⟩
  apply ((ofConfig_leaves_no_hole hascending).2.1 _).mpr
  have hspec : silencedConfig.Defines "flake8" { command := "# none" } := .user rfl
  have hoffends : silencedConfig.Offends "flake8" (invalidCommand "flake8" "# none") := by
    apply Config.Offends.invalid hspec
    intro program rest h
    rw [show Text.words? "# none" = some [] by decide +kernel] at h
    cases h
  refine ⟨("python", ⟨["py"], ["flake8", "nosuch"]⟩), by decide, [], "flake8", ["nosuch"], rfl, hoffends,
    by simp, ?_⟩
  -- what stands in the language in front of it can be run
  have heslint : silencedConfig.Runnable "eslint" :=
    ⟨"eslint", _, ["--format", "\x7breporter\x7d", "\x7bpath\x7d"], .builtin rfl rfl, by decide +kernel⟩
  have hhouse : silencedConfig.Runnable "house" :=
    ⟨"house", _, ["\x7bpath\x7d"], .user rfl, by decide +kernel⟩
  intro l hl hlt
  simp only [silencedConfig, List.mem_cons, List.not_mem_nil, or_false] at hl
  rcases hl with rfl | rfl
  · simp [heslint, hhouse]
  · exact absurd hlt (String.lt_irrefl _)

end LintGate.Registry
