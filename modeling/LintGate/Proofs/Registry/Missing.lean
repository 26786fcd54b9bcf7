/-
The check before a run, and what the run starts.

Before the workspace is touched it is asked which linters are missing; found out later, a
missing one ends the linting inside the critical section. The check goes through the paths
of both sides, collects the languages that claim them, each once, and looks the programs of
their linters up. The run goes by other lists: two for the committed side and a third for
the new names of renames, two for the baseline, with the old names, and of each path the
linters of all languages that claim it. That the two agree rests on two facts. Every lint
call of a run is on a path that the check goes through (`Course.lints_lintPaths`); and
collecting languages by their names loses none, because no two have the same
(`neededFor_collects`).
-/
import LintGate.Proofs.Registry.Started
import LintGate.Proofs.Snapshot.Sides
import LintGate.Registry.Missing
import LintGate.Rehearsal
import Mathlib.Data.List.Flatten
import Mathlib.Data.List.Nodup
import Mathlib.Data.List.Perm.Subperm

set_option autoImplicit false

namespace LintGate

/-! ## The paths of a run -/

namespace Snapshot

variable {mode asked : Option String} {path : String} {files : StagedFiles}
  {answer : Except LintError (Option LintResult)}

theorem Lints.of_lint {paths : List String} {es : List Event} (h : Lints mode paths es)
    (he : .lint path asked answer ∈ es) : asked = mode ∧ path ∈ paths := by
  refine ⟨?_, h.mem_of_lint he⟩
  obtain ⟨front, -, hes⟩ := h
  obtain ⟨_, -, _, heq⟩ := exists_of_mem_forall₂ hes he
  exact (Event.lint.inj heq).2.1

/-- The paths of the baseline are among those that are linted before or after. -/
theorem mem_lintPaths_of_mem_baselinePaths (h : path ∈ baselinePaths files) :
    path ∈ files.lintPaths := by
  rcases List.mem_append.mp h with h | h
  · exact List.mem_append_left _ (List.mem_append_left _ (List.mem_append_left _ h))
  · exact List.mem_append_right _ h

/-- A lint call stands in one of the two parts of a run that lint. -/
theorem Parts.Apart.lints_lintPaths {p : Parts} (h : p.Apart mode files)
    (he : .lint path asked answer ∈ p.all) : asked = mode ∧ path ∈ files.lintPaths := by
  have hno : .lint path asked answer ∉ p.opening ++ p.between ++ p.back := fun he =>
    Bool.noConfusion (h.no_lint _ he)
  simp only [List.mem_append, not_or] at hno
  simp only [Parts.all, List.mem_append, hno, false_or, or_false] at he
  rcases he with he | he
  · exact (h.committed.of_lint he).imp_right (List.mem_append_left _)
  · exact (h.baseline.of_lint he).imp_right mem_lintPaths_of_mem_baselinePaths

/-- **A run lints under its mode, and paths that stand in one of the two trees.** -/
theorem Course.lints_lintPaths {es : List Event} {answered : Except RunError Snapshots}
    (h : Course mode files es answered) (he : .lint path asked answer ∈ es) :
    asked = mode ∧ path ∈ files.lintPaths := by
  cases h with
  | headUnread => exact nomatch List.mem_singleton.mp he
  | unborn h =>
    rcases List.mem_cons.mp he with he | he
    · cases he
    · exact (h.linted.lints.of_lint he).imp_right (List.mem_append_left _)
  | unbornAborted h =>
    rcases List.mem_cons.mp he with he | he
    · cases he
    · exact (h.lints.of_lint he).imp_right (List.mem_append_left _)
  | mergeUnread => simp at he
  | @isolated merge _ _ _ _ _ _ h h' =>
    obtain ⟨p, hp, hapart, -⟩ := h.parts merge h'.restores
    rw [hp] at he
    exact hapart.lints_lintPaths he

end Snapshot

namespace Registry

/-! ## Languages collected by their names -/

/-- The languages were collected from some that were met: all that were met are there by their names, and
each name once. -/
structure Collects (met needed : List (String × Language)) : Prop where
  sound : ∀ l ∈ needed, l ∈ met
  complete : ∀ l ∈ met, l.1 ∈ needed.map (·.1)
  once : (needed.map (·.1)).Nodup

theorem Collects.nil : Collects [] [] :=
  ⟨fun _ h => h, fun _ h => absurd h List.not_mem_nil, List.nodup_nil⟩

/-- Meeting one more language. -/
theorem Collects.meet {met needed : List (String × Language)} (h : Collects met needed)
    (l : String × Language) :
    Collects (met ++ [l]) (if needed.any fun n => n.1 == l.1 then needed else needed ++ [l]) := by
  have hthere : (needed.any fun n => n.1 == l.1) = true ↔ l.1 ∈ needed.map (·.1) := by
    simp
  split
  · rename_i hany
    refine ⟨fun n hn => List.mem_append_left _ (h.sound n hn), fun n hn => ?_, h.once⟩
    rcases List.mem_append.mp hn with hn | hn
    · exact h.complete n hn
    · rw [List.mem_singleton.mp hn]
      exact hthere.mp hany
  · rename_i hany
    rw [hthere] at hany
    refine ⟨fun n hn => ?_, fun n hn => ?_, ?_⟩
    · exact (List.mem_append.mp hn).elim (fun hn => List.mem_append_left _ (h.sound n hn))
        (List.mem_append_right _)
    · rw [List.map_append]
      rcases List.mem_append.mp hn with hn | hn
      · exact List.mem_append_left _ (h.complete n hn)
      · rw [List.mem_singleton.mp hn]
        exact List.mem_append_right _ List.mem_cons_self
    · -- a name that was not there
      rw [List.map_append]
      refine h.once.append (List.nodup_singleton _) ?_
      exact List.disjoint_singleton.mpr hany

theorem Collects.addNeeded {met needed : List (String × Language)} (h : Collects met needed)
    (more : List (String × Language)) : Collects (met ++ more) (addNeeded needed more) := by
  induction more generalizing met needed with
  | nil =>
    rw [List.append_nil]
    exact h
  | cons l rest ih =>
    rw [← List.singleton_append, ← List.append_assoc]
    exact ih (h.meet l)

/-- **The languages that paths need are collected from those that claim them.** -/
theorem neededFor_collects (r : Registry) (paths : List String) (mode : Option String) :
    Collects (paths.flatMap fun path => r.languagesFor path mode) (r.neededFor paths mode) := by
  have hall : ∀ met needed, Collects met needed →
      Collects (met ++ paths.flatMap fun path => r.languagesFor path mode)
        (paths.foldl (fun ns path => addNeeded ns (r.languagesFor path mode)) needed) := by
    induction paths with
    | nil =>
      intro met needed h
      rw [List.flatMap_nil, List.append_nil]
      exact h
    | cons path rest ih =>
      intro met needed h
      rw [List.flatMap_cons, ← List.append_assoc]
      exact ih _ _ (h.addNeeded _)
  exact hall [] [] .nil

variable {r : Registry} {paths : List String} {mode : Option String} {found : String → Bool}

/-- Languages with different names are the same if their names are. -/
theorem eq_of_name_eq (hnames : (r.languages.map (·.1)).Nodup) {l l' : String × Language}
    (hl : l ∈ r.languages) (hl' : l' ∈ r.languages) (hname : l.1 = l'.1) : l = l' :=
  List.inj_on_of_nodup_map hnames hl hl' hname

/-- The languages that some paths need are those that claim one of them. -/
theorem mem_neededFor (hnames : (r.languages.map (·.1)).Nodup) {l : String × Language} :
    l ∈ r.neededFor paths mode ↔ ∃ path ∈ paths, l ∈ r.languagesFor path mode := by
  have hcollects := neededFor_collects r paths mode
  constructor
  · exact fun h => List.mem_flatMap.mp (hcollects.sound l h)
  · rintro ⟨path, hpath, hl⟩
    have hmet : l ∈ paths.flatMap fun path => r.languagesFor path mode :=
      List.mem_flatMap.mpr ⟨path, hpath, hl⟩
    obtain ⟨l', hl', hname⟩ := List.mem_map.mp (hcollects.complete l hmet)
    obtain ⟨path', -, hclaims⟩ := List.mem_flatMap.mp (hcollects.sound l' hl')
    -- of that name there is no other language
    have heq : l' = l := eq_of_name_eq hnames (mem_languages_of_mem_languagesFor hclaims)
      (mem_languages_of_mem_languagesFor hl) hname
    rwa [heq] at hl'

/-! ## What is reported -/

theorem missingLinter?_eq_some {language linter : String} {m : MissingLinter} :
    missingLinter? found r language linter = some m ↔ m.language = language ∧ m.linter = linter ∧
      (r.linters.lookup linter).bind program? = some m.program ∧ found m.program = false := by
  obtain ⟨language', linter', program'⟩ := m
  rw [missingLinter?]
  cases hprogram : (r.linters.lookup linter).bind program? with
  | none => simp
  | some program =>
    dsimp only
    by_cases hfound : found program = true
    · rw [if_pos hfound]
      refine iff_of_false (fun h => nomatch h) ?_
      rintro ⟨-, -, heq, hmissing⟩
      cases heq
      rw [hfound] at hmissing
      cases hmissing
    · rw [if_neg hfound]
      constructor
      · intro h
        cases h
        exact ⟨rfl, rfl, rfl, Bool.eq_false_iff.mpr hfound⟩
      · rintro ⟨rfl, rfl, heq, -⟩
        cases heq
        rfl

/-- What is reported of languages are the linters that they name and whose program is not found. -/
theorem mem_missingOf {languages : List (String × Language)} {m : MissingLinter} :
    m ∈ missingOf found r languages ↔ ∃ l ∈ languages, m.language = l.1 ∧ m.linter ∈ l.2.linters ∧
      (r.linters.lookup m.linter).bind program? = some m.program ∧ found m.program = false := by
  rw [missingOf, List.mem_flatMap]
  refine exists_congr fun l => and_congr_right fun _ => ?_
  rw [List.mem_filterMap]
  constructor
  · rintro ⟨linter, hlinter, h⟩
    obtain ⟨hlanguage, rfl, hprogram⟩ := missingLinter?_eq_some.mp h
    exact ⟨hlanguage, hlinter, hprogram⟩
  · rintro ⟨hlanguage, hlinter, hprogram⟩
    exact ⟨m.linter, hlinter, missingLinter?_eq_some.mpr ⟨hlanguage, rfl, hprogram⟩⟩

theorem missingOf_append (found : String → Bool) (r : Registry)
    (languages languages' : List (String × Language)) :
    missingOf found r (languages ++ languages')
      = missingOf found r languages ++ missingOf found r languages' :=
  List.flatMap_append

/-- Nothing is reported of a language that is not asked about. -/
theorem filter_missingOf_eq_nil {languages : List (String × Language)} {name : String}
    (h : name ∉ languages.map (·.1)) :
    (missingOf found r languages).filter (fun m => m.language == name) = [] := by
  rw [List.filter_eq_nil_iff]
  intro m hm heq
  obtain ⟨l, hl, hlanguage, -⟩ := mem_missingOf.mp hm
  rw [beq_iff_eq, hlanguage] at heq
  exact h (List.mem_map.mpr ⟨l, hl, heq⟩)

/-- **A language that is needed is reported once**, however many paths need it. -/
theorem filter_missingFor (hnames : (r.languages.map (·.1)).Nodup) {l : String × Language}
    (hneeded : ∃ path ∈ paths, l ∈ r.languagesFor path mode) :
    (missingFor found r paths mode).filter (fun m => m.language == l.1) = missingOf found r [l] := by
  have honce := (neededFor_collects r paths mode).once
  obtain ⟨front, back, heq⟩ := List.append_of_mem ((mem_neededFor hnames).mpr hneeded)
  rw [missingFor, heq, ← List.singleton_append, missingOf_append, missingOf_append, List.filter_append,
    List.filter_append]
  -- in front of it and behind it stand languages of other names
  rw [heq, List.map_append, List.map_cons, List.nodup_middle, List.nodup_cons, List.mem_append,
    not_or] at honce
  rw [filter_missingOf_eq_nil honce.1.1, filter_missingOf_eq_nil honce.1.2, List.nil_append,
    List.append_nil, List.filter_eq_self]
  intro m hm
  obtain ⟨l', hl', hlanguage, -⟩ := mem_missingOf.mp hm
  rw [List.mem_singleton.mp hl'] at hlanguage
  exact beq_iff_eq.mpr hlanguage

/-- **What is reported for some paths is part of what is reported for the configuration**, in another
order where the paths need languages in another order. -/
theorem missingFor_subperm (hnames : (r.languages.map (·.1)).Nodup) :
    (missingFor found r paths mode).Subperm (missing found r) := by
  have honce : (r.neededFor paths mode).Nodup :=
    List.Nodup.of_map _ (neededFor_collects r paths mode).once
  have hsub : r.neededFor paths mode ⊆ r.languages := fun l hl =>
    have ⟨_, _, hclaims⟩ := (mem_neededFor hnames).mp hl
    mem_languages_of_mem_languagesFor hclaims
  obtain ⟨languages, hperm, hsublist⟩ := List.subperm_of_subset honce hsub
  exact ⟨missingOf found r languages, hperm.flatMap_right _, hsublist.flatMap _⟩

/-! ## The check and the run -/

variable {σ : Type} {config : Config}

/-- A language that claims a path has one of its extensions, and goes under the mode if there is one. -/
theorem mem_languagesFor {path : String} {l : String × Language} :
    l ∈ r.languagesFor path mode ↔ ∃ ending, Path.extension? path = some ending ∧
      l ∈ r.languages ∧ ending ∈ l.2.extensions ∧ ∀ chosen, mode = some chosen → l.1 = chosen := by
  have hadmits : admits mode l.1 = true ↔ ∀ chosen, mode = some chosen → l.1 = chosen := by
    cases mode with
    | none => simp [admits]
    | some chosen => simp [admits]
  rw [languagesFor]
  cases Path.extension? path with
  | none => simp
  | some ending => simp [List.mem_filter, hadmits]

/-- The program that is looked up for a linter is that of the configuration's linter. -/
theorem bind_program?_of_ofConfig (h : ofConfig config = .ok r) {l : String × Language}
    (hl : l ∈ config.languages) {name : String} (hname : name ∈ l.2.linters) :
    (r.linters.lookup name).bind program? = config.program? name ∧
      ∃ program, config.program? name = some program := by
  obtain ⟨spec, program, hlookup, hspec, hprogram⟩ := lookup_of_ofConfig h hl hname
  have hconfig : config.program? name = some program := by
    rw [Config.program?, hspec]
    exact hprogram
  refine ⟨?_, program, hconfig⟩
  rw [hlookup, hconfig]
  exact hprogram

/-- **What the check reports, told by the configuration**: the linters that languages name which claim one
of the paths, and whose program is not found. -/
theorem mem_missingFor (h : ofConfig config = .ok r) (hnames : (config.languages.map (·.1)).Nodup)
    {m : MissingLinter} :
    m ∈ missingFor found r paths mode ↔ ∃ path ∈ paths, ∃ l ∈ r.languagesFor path mode,
      m.language = l.1 ∧ m.linter ∈ l.2.linters ∧ config.program? m.linter = some m.program ∧
        found m.program = false := by
  rw [← ofConfig_languages h] at hnames
  have hprogram : ∀ l ∈ r.languages, m.linter ∈ l.2.linters →
      (r.linters.lookup m.linter).bind program? = config.program? m.linter := fun l hl hlinter =>
    (bind_program?_of_ofConfig h (ofConfig_languages h ▸ hl) hlinter).1
  rw [missingFor, mem_missingOf]
  constructor
  · rintro ⟨l, hl, hlanguage, hlinter, hlookup, hmissing⟩
    obtain ⟨path, hpath, hclaims⟩ := (mem_neededFor hnames).mp hl
    rw [hprogram l (mem_languages_of_mem_languagesFor hclaims) hlinter] at hlookup
    exact ⟨path, hpath, l, hclaims, hlanguage, hlinter, hlookup, hmissing⟩
  · rintro ⟨path, hpath, l, hclaims, hlanguage, hlinter, hconfig, hmissing⟩
    rw [← hprogram l (mem_languages_of_mem_languagesFor hclaims) hlinter] at hconfig
    exact ⟨l, (mem_neededFor hnames).mpr ⟨path, hpath, hclaims⟩, hlanguage, hlinter, hconfig, hmissing⟩

/-- **The check before a run covers exactly what the run can start.** Each lint call of the run is on a
path that the check goes through. A linter that it starts has a program, and if that is not found, the
linter is reported, for every language for which the call runs it. Whatever is reported is a linter that
is missing, of a language that claims the extension of one of the paths under the mode. A language that
paths need is reported once, however many of them do, and for any paths no more is reported than for the
whole configuration. -/
theorem missingFor_covers_run (vcs : VersionControl σ) (host : Host σ) (found : String → Bool)
    (h : ofConfig config = .ok r) (hnames : (config.languages.map (·.1)).Nodup)
    (mode : Option String) (files : StagedFiles) (verbose : Bool) (session : Session σ) :
    (∃ es, (Snapshot.take vcs (r.linter host) mode files verbose session).2.events
        = session.events ++ es ∧
      ∀ path asked answer, .lint path asked answer ∈ es → asked = mode ∧ path ∈ files.lintPaths ∧
        ∀ w name, Starts host r path asked w name →
          (∃ l ∈ r.languagesFor path asked, name ∈ l.2.linters) ∧
          ∃ program, config.program? name = some program ∧
            (found program = false → ∀ l ∈ r.languagesFor path asked, name ∈ l.2.linters →
              ⟨l.1, name, program⟩ ∈ missingFor found r files.lintPaths mode)) ∧
    (∀ m ∈ missingFor found r files.lintPaths mode,
      ∃ path ∈ files.lintPaths, ∃ ending language, Path.extension? path = some ending ∧
        (m.language, language) ∈ config.languages ∧ ending ∈ language.extensions ∧
        (∀ chosen, mode = some chosen → m.language = chosen) ∧ m.linter ∈ language.linters ∧
        config.program? m.linter = some m.program ∧ found m.program = false) ∧
    (∀ (paths : List String) (mode : Option String) (l : String × Language),
      (∃ path ∈ paths, l ∈ r.languagesFor path mode) →
        (missingFor found r paths mode).filter (fun m => m.language == l.1) = missingOf found r [l]) ∧
    ∀ (paths : List String) (mode : Option String),
      (missingFor found r paths mode).Subperm (missing found r) := by
  have hlanguages : r.languages = config.languages := ofConfig_languages h
  refine ⟨?_, fun m hm => ?_, fun paths mode l hneeded => ?_, fun paths mode => ?_⟩
  · obtain ⟨es, hes, -, hruns⟩ := Snapshot.does_take vcs (r.linter host) mode files verbose session
    refine ⟨es, hes, fun path asked answer he => ?_⟩
    -- the call is on a path that the check goes through
    have hcovered : asked = mode ∧ path ∈ files.lintPaths := by
      have hcall : .lint path asked answer ∈ calls es := mem_calls.mpr ⟨he, rfl⟩
      rw [Snapshot.Runs] at hruns
      split at hruns
      · exact hruns.lints_lintPaths hcall
      · rw [hruns.1] at hcall
        cases hcall
    obtain ⟨rfl, hpath⟩ := hcovered
    refine ⟨rfl, hpath, fun w name hstarts => ⟨hstarts.exists_language, ?_⟩⟩
    obtain ⟨l, hl, hname⟩ := hstarts.exists_language
    obtain ⟨-, program, hprogram⟩ := bind_program?_of_ofConfig h
      (hlanguages ▸ mem_languages_of_mem_languagesFor hl) hname
    refine ⟨program, hprogram, fun hmissing l' hl' hname' => ?_⟩
    exact (mem_missingFor h hnames).mpr ⟨path, hpath, l', hl', rfl, hname', hprogram, hmissing⟩
  · obtain ⟨path, hpath, l, hclaims, hlanguage, hlinter, hprogram, hmissing⟩ :=
      (mem_missingFor h hnames).mp hm
    obtain ⟨ending, hending, hl, hclaimed, hmode⟩ := mem_languagesFor.mp hclaims
    rw [hlanguage]
    exact ⟨path, hpath, ending, l.2, hending, hlanguages ▸ hl, hclaimed, hmode, hlinter, hprogram,
      hmissing⟩
  · exact filter_missingFor (hlanguages ▸ hnames) hneeded
  · exact missingFor_subperm (hlanguages ▸ hnames)

/-! ## A rehearsed run -/

/-- A host on which every path leads to a file and every program ends without a word. -/
def quietHost : Host Rehearsal.Stage where
  run _ _ _ := pure (.exited 0 [] [])
  isFile _ _ := true
  reporterDirectory := pure (.ok "/reporters")

/-- The registry of the standard configuration. -/
def standardRegistry : Registry where
  languages := Config.standard.languages
  linters := [("eslint", ⟨"eslint --format \x7breporter\x7d \x7bpath\x7d", [1], some .eslint⟩),
    ("flake8", ⟨recordsCommand "flake8", [1], none⟩)]
  timeout := 60

/-- The staged files of a commit that rewrites a script in another language. -/
def rewritten : StagedFiles := { renames := [⟨"tool.py", "tool.js"⟩] }

/-- What a run over these files does. -/
def rewrittenEvents : List Event :=
  (Snapshot.take Rehearsal.versionControl (standardRegistry.linter quietHost) none rewritten false
    ⟨{}, []⟩).2.events

/-- A call under which a result was put is a lint call on that path. -/
theorem lint_of_gather {e : Event} {path : String} {result : LintResult}
    (h : Snapshot.gather {} e = ⟨[(path, result)]⟩) :
    ∃ asked, e = .lint path asked (.ok (some result)) := by
  cases e with
  | lint path' asked answer =>
    cases answer with
    | error e => cases h
    | ok answer =>
      cases answer with
      | none => cases h
      | some result' =>
        cases h
        exact ⟨asked, rfl⟩
  | _ => cases h

/-- **A linter that only an old name needs**: it is started at the baseline, although no file of the commit
is of its language, and the check reports it. -/
theorem missingFor_covers_rewritten :
    ofConfig Config.standard = .ok standardRegistry ∧
      (∃ answer, .lint "tool.py" none answer ∈ rewrittenEvents) ∧
      "tool.py" ∉ rewritten.currentPaths ∧
      Starts quietHost standardRegistry "tool.py" none {} "flake8" ∧
      ⟨"python", "flake8", "flake8"⟩ ∈
        missingFor (fun program => program != "flake8") standardRegistry rewritten.lintPaths none := by
  have hregistry : ofConfig Config.standard = .ok standardRegistry := rfl
  obtain ⟨⟨es, hes, hcovers⟩, -⟩ := missingFor_covers_run Rehearsal.versionControl quietHost
    (fun program => program != "flake8") hregistry Config.standard_ascending.nodup none rewritten false
    ⟨{}, []⟩
  have hevents : rewrittenEvents = es := hes
  have hlinted : (rewrittenEvents.any fun e => Snapshot.gather {} e = ⟨[("tool.py", {})]⟩) = true := by
    decide +kernel
  obtain ⟨e, he, hgather⟩ := List.any_eq_true.mp hlinted
  obtain ⟨asked, rfl⟩ := lint_of_gather (of_decide_eq_true hgather)
  obtain ⟨rfl, -, hstarted⟩ := hcovers _ _ _ (hevents ▸ he)
  have hstarts : Starts quietHost standardRegistry "tool.py" none {} "flake8" := by
    have hlinters : standardRegistry.lintersFor "tool.py" none = ["flake8"] := by decide +kernel
    refine ⟨by decide +kernel, rfl, {}, ?_⟩
    rw [hlinters]
    exact .first rfl
  refine ⟨hregistry, ⟨_, he⟩, by decide, hstarts, ?_⟩
  obtain ⟨-, program, hprogram, hreported⟩ := hstarted _ _ hstarts
  have hflake8 : Config.standard.program? "flake8" = some "flake8" := by decide +kernel
  obtain rfl : program = "flake8" := Option.some.inj (hprogram.symm.trans hflake8)
  have hclaims : ("python", ⟨["py", "pyw"], ["flake8"]⟩)
      ∈ standardRegistry.languagesFor "tool.py" none := by decide +kernel
  exact hreported (by decide) _ hclaims (by decide)

end Registry

end LintGate
