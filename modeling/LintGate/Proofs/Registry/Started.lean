/-
The linters that a call runs.

A call on a path names no linter. Which ones it runs is settled on the way: the languages
that claim the path are gone through, and of each its linters, up to the first that fails;
and how one ends may depend on what those in front of it did to the world. `Comes` follows
this from one linter to the next, and `Starts` says of a call in a world that it comes to a
linter. That this is what a call does is told by its answer: it fails exactly as one of the
linters fails that it comes to (`lint_error_iff`).

Nothing that a call comes to is unknown. The registry of a configuration holds every linter
that a language names, as the configuration has it, with a program to run.
-/
import LintGate.Registry.Run
import LintGate.Proofs.Config.Order

set_option autoImplicit false

namespace LintGate

/-! ## The linters of a configuration -/

namespace Config

theorem mem_foldl_firsts {names seen : List String} {name : String} :
    name ∈ names.foldl (fun seen n => if seen.contains n then seen else seen ++ [n]) seen ↔
      name ∈ seen ∨ name ∈ names := by
  induction names generalizing seen with
  | nil => simp
  | cons n rest ih =>
    rw [List.foldl_cons, ih]
    split
    · rename_i hseen
      have hn : n ∈ seen := by simpa using hseen
      constructor
      · exact fun h => h.imp_right (List.mem_cons_of_mem _)
      · rintro (h | h)
        · exact .inl h
        · rcases List.mem_cons.mp h with rfl | h
          · exact .inl hn
          · exact .inr h
    · rw [List.mem_append, List.mem_singleton, List.mem_cons, or_assoc]

/-- The enabled linters are those that some language names. -/
theorem mem_enabledLinters {config : Config} {name : String} :
    name ∈ config.enabledLinters ↔ ∃ l ∈ config.languages, name ∈ l.2.linters := by
  rw [enabledLinters, firsts, mem_foldl_firsts, List.mem_flatMap]
  simp

/-- The program of a linter of a configuration: the first word of its command. -/
def program? (config : Config) (name : String) : Option String :=
  (config.linter? name).bind Registry.program?

end Config

namespace Registry

variable {config : Config} {r : Registry}

/-- The program of a linter is the first word of its command. -/
theorem program?_eq_some_iff {spec : LinterSpec} {program : String} :
    program? spec = some program ↔ ∃ rest, Text.words? spec.command = some (program :: rest) := by
  unfold program?
  rw [Option.bind_eq_some_iff]
  constructor
  · rintro ⟨words, hwords, hhead⟩
    obtain ⟨rest, rfl⟩ := List.head?_eq_some_iff.mp hhead
    exact ⟨rest, hwords⟩
  · rintro ⟨rest, hwords⟩
    exact ⟨program :: rest, hwords, rfl⟩

theorem isRunnable_iff {command : String} :
    isRunnable command = true ↔ ∃ program rest, Text.words? command = some (program :: rest) := by
  unfold isRunnable
  split
  · rename_i program rest hwords
    exact iff_of_true rfl ⟨program, rest, hwords⟩
  · rename_i hnone
    apply iff_of_false
    · exact Bool.false_ne_true
    · rintro ⟨program, rest, hwords⟩
      exact hnone program rest hwords

theorem resolve_eq_ok {name : String} {spec : LinterSpec} (h : resolve config name = .ok spec) :
    config.linter? name = some spec ∧ ∃ program, program? spec = some program := by
  rw [resolve] at h
  split at h
  · cases h
  rename_i spec' hspec
  split at h
  · rename_i hrunnable
    cases h
    obtain ⟨program, hwords⟩ := isRunnable_iff.mp hrunnable
    exact ⟨hspec, program, program?_eq_some_iff.mpr hwords⟩
  · cases h

/-- Each name is resolved, and found again under it. -/
theorem lookup_of_resolveAll {names : List String} {linters : List (String × LinterSpec)}
    (h : resolveAll config names = .ok linters) {name : String} (hname : name ∈ names) :
    ∃ spec, linters.lookup name = some spec ∧ resolve config name = .ok spec := by
  induction names generalizing linters with
  | nil => cases hname
  | cons n rest ih =>
    obtain ⟨spec, hspec, h⟩ := exists_of_bind_eq_ok h
    obtain ⟨others, hothers, h⟩ := exists_of_bind_eq_ok h
    cases h
    by_cases hn : name = n
    · rw [hn]
      exact ⟨spec, List.lookup_cons_self, hspec⟩
    · have hrest : name ∈ rest := (List.mem_cons.mp hname).resolve_left hn
      obtain ⟨spec', hlookup, hresolve⟩ := ih hothers hrest
      refine ⟨spec', ?_, hresolve⟩
      rw [List.lookup_cons, beq_eq_false_iff_ne.mpr hn]
      exact hlookup

theorem ofConfig_languages (h : ofConfig config = .ok r) : r.languages = config.languages := by
  obtain ⟨linters, -, h⟩ := exists_of_bind_eq_ok h
  cases h
  rfl

/-- **A linter that a language names is the configuration's, and it has a program.** -/
theorem lookup_of_ofConfig (h : ofConfig config = .ok r) {l : String × Language}
    (hl : l ∈ config.languages) {name : String} (hname : name ∈ l.2.linters) :
    ∃ spec program, r.linters.lookup name = some spec ∧ config.linter? name = some spec ∧
      program? spec = some program := by
  obtain ⟨linters, hlinters, h⟩ := exists_of_bind_eq_ok h
  cases h
  obtain ⟨spec, hlookup, hresolve⟩ :=
    lookup_of_resolveAll hlinters (Config.mem_enabledLinters.mpr ⟨l, hl, hname⟩)
  obtain ⟨hspec, program, hprogram⟩ := resolve_eq_ok hresolve
  exact ⟨spec, program, hlookup, hspec, hprogram⟩

/-- The languages that claim a path are among all. -/
theorem mem_languages_of_mem_languagesFor {path : String} {mode : Option String}
    {l : String × Language} (h : l ∈ r.languagesFor path mode) : l ∈ r.languages := by
  rw [languagesFor] at h
  split at h
  · cases h
  · exact (List.mem_filter.mp h).1

/-! ## From one linter to the next -/

variable {σ : Type} (host : Host σ) (r : Registry) (path : String)

/-- Whether running linters comes to one of them, and the world in which it is run then: those in front
of it have answered. -/
inductive Comes : List String → σ → String → σ → Prop where
  | first {name : String} {spec : LinterSpec} {rest : List String} {w : σ}
      (hspec : r.linters.lookup name = some spec) : Comes (name :: rest) w name w
  | next {name name' : String} {spec : LinterSpec} {rest : List String} {w v w' : σ}
      {result : LintResult} (hspec : r.linters.lookup name = some spec)
      (hrun : runLinter host r name spec path w = (.ok result, v)) (h : Comes rest v name' w') :
      Comes (name :: rest) w name' w'

/-- Whether the call on a path in a world runs a linter. A path that no language claims runs none, nor
does one that leads to no file. -/
def Starts (mode : Option String) (w : σ) (name : String) : Prop :=
  r.handles path mode = true ∧ host.isFile path w = true ∧
    ∃ w', Comes host r path (r.lintersFor path mode) w name w'

variable {host r path}

theorem Comes.mem {names : List String} {w w' : σ} {name : String}
    (h : Comes host r path names w name w') : name ∈ names := by
  induction h with
  | first => exact List.mem_cons_self
  | next _ _ _ ih => exact List.mem_cons_of_mem _ ih

/-- A linter that a call runs is named by a language that claims the path. -/
theorem Starts.exists_language {mode : Option String} {w : σ} {name : String}
    (h : Starts host r path mode w name) : ∃ l ∈ r.languagesFor path mode, name ∈ l.2.linters := by
  obtain ⟨-, -, w', hcomes⟩ := h
  exact List.mem_flatMap.mp hcomes.mem

/-! ## One linter -/

/-- The command of a linter with a program has words, whatever is put into its places. -/
theorem argv_of_program? {spec : LinterSpec} {program : String} (h : program? spec = some program)
    (path : String) (reporter : Option String) :
    ∃ args, argv spec path reporter = .ok (fill path reporter program :: args) := by
  obtain ⟨rest, hwords⟩ := program?_eq_some_iff.mp h
  refine ⟨rest.map (fill path reporter), ?_⟩
  simp only [argv, hwords, List.map_cons]

/-- A linter whose script cannot be placed is not run. -/
theorem runLinter_unplaced {name : String} {spec : LinterSpec} {w u : σ} {e : LintError}
    (h : reporterPlace host spec w = (.error e, u)) :
    runLinter host r name spec path w = (.error e, u) := by
  unfold runLinter
  simp only [bind, StateT.bind, h]
  rfl

/-- A linter whose script is placed is run, and judged by how it ends. -/
theorem runLinter_placed {name program : String} {spec : LinterSpec} {args : List String}
    {reporter : Option String} {w u : σ} (hplace : reporterPlace host spec w = (.ok reporter, u))
    (hargv : argv spec path reporter = .ok (program :: args)) :
    runLinter host r name spec path w =
      (judge name program path spec r.timeout (host.run program args r.timeout u).1,
        (host.run program args r.timeout u).2) := by
  unfold runLinter
  simp only [bind, StateT.bind, hplace, hargv]
  rfl

/-- A process that ends with zero, or with a code that the linter finds with, answers. -/
theorem judge_exited {name program path : String} {spec : LinterSpec} {timeout : Nat} {code : Int}
    {out err : Bytes} (h : code = 0 ∨ code ∈ spec.findingExitCodes) :
    judge name program path spec timeout (.exited code out err) =
      .ok ⟨shownOutput out, decide (code ≠ 0)⟩ := by
  unfold judge
  by_cases hzero : code = 0
  · simp [hzero]
  · have hfinding : code ∈ spec.findingExitCodes := h.resolve_left hzero
    simp [hzero, hfinding]

/-- A process answers so, or its program was missing, or it failed for this file only. -/
theorem judge_cases (name program path : String) (spec : LinterSpec) (timeout : Nat) (ending : Ending) :
    (∃ code out err, ending = .exited code out err ∧ (code = 0 ∨ code ∈ spec.findingExitCodes)) ∨
    ending = .notFound ∨
    ∃ message, judge name program path spec timeout ending = .error (.crash name path message) := by
  cases ending with
  | notFound => exact .inr (.inl rfl)
  | exited code out err =>
    by_cases hdone : code = 0 ∨ code ∈ spec.findingExitCodes
    · exact .inl ⟨code, out, err, rfl, hdone⟩
    · rw [not_or] at hdone
      right; right
      unfold judge
      simp [hdone]
  | _ => exact .inr (.inr ⟨_, rfl⟩)

/-! ## How a call fails -/

/-- The first linter is run, and if it answers, those behind it in the world that it leaves. -/
theorem runLinters_cons {name : String} {spec : LinterSpec} {rest : List String} {result : LintResult}
    {w v : σ} {answer : Except LintError LintResult} (hspec : r.linters.lookup name = some spec)
    (hrun : runLinter host r name spec path w = (answer, v)) :
    runLinters host r path (name :: rest) result w =
      match answer with
      | .error e => (.error e, v)
      | .ok found => runLinters host r path rest (result.merge found) v := by
  rw [runLinters, hspec]
  simp only [bind, StateT.bind, hrun]
  cases answer <;> rfl

/-- Running linters that are all known fails exactly as one of those fails to which it comes. -/
theorem runLinters_error_iff {names : List String} (result : LintResult) {w : σ} {e : LintError}
    (hknown : ∀ name ∈ names, ∃ spec, r.linters.lookup name = some spec) :
    (runLinters host r path names result w).1 = .error e ↔
      ∃ name spec w', Comes host r path names w name w' ∧ r.linters.lookup name = some spec ∧
        (runLinter host r name spec path w').1 = .error e := by
  induction names generalizing result w with
  | nil =>
    refine iff_of_false (fun h => nomatch h) ?_
    rintro ⟨name, spec, w', hcomes, -⟩
    cases hcomes
  | cons name rest ih =>
    obtain ⟨spec, hspec⟩ := hknown name List.mem_cons_self
    rcases hrun : runLinter host r name spec path w with ⟨answer, v⟩
    rw [runLinters_cons hspec hrun]
    cases answer with
    | error e' =>
      constructor
      · intro h
        cases h
        exact ⟨name, spec, w, .first hspec, hspec, by rw [hrun]⟩
      · -- it comes to no other
        rintro ⟨name', spec', w', hcomes, hspec', herror⟩
        cases hcomes with
        | first =>
          rw [Option.some.inj (hspec'.symm.trans hspec), hrun] at herror
          exact herror
        | next hspec'' hrun' =>
          rw [Option.some.inj (hspec''.symm.trans hspec), hrun] at hrun'
          cases hrun'
    | ok found =>
      have hknown' : ∀ n ∈ rest, ∃ spec, r.linters.lookup n = some spec := fun n hn =>
        hknown n (List.mem_cons_of_mem _ hn)
      dsimp only
      rw [ih _ hknown']
      constructor
      · rintro ⟨name', spec', w', hcomes, hfails⟩
        exact ⟨name', spec', w', .next hspec hrun hcomes, hfails⟩
      · rintro ⟨name', spec', w', hcomes, hspec', herror⟩
        cases hcomes with
        | first =>
          -- the first one has answered
          rw [Option.some.inj (hspec'.symm.trans hspec), hrun] at herror
          cases herror
        | next hspec'' hrun' hcomes =>
          rw [Option.some.inj (hspec''.symm.trans hspec), hrun] at hrun'
          cases hrun'
          exact ⟨name', spec', w', hcomes, hspec', herror⟩

/-- A call on a path that no language claims, or that leads to no file, leaves the world as it is. -/
theorem lint_idle {mode : Option String} {w : σ}
    (h : r.handles path mode = false ∨ host.isFile path w = false) :
    lint host r path mode w = (.ok none, w) := by
  unfold lint
  simp only [bind, StateT.bind, get, getThe, MonadStateOf.get, StateT.get, pure]
  rcases h with h | h
  · rw [h]
    rfl
  · rw [h, Bool.not_false, Bool.or_true]
    rfl

theorem lint_runs {mode : Option String} {w : σ} (hhandled : r.handles path mode = true)
    (hfile : host.isFile path w = true) :
    lint host r path mode w =
      ((runLinters host r path (r.lintersFor path mode) {} w).1.map some,
        (runLinters host r path (r.lintersFor path mode) {} w).2) := by
  unfold lint
  simp only [bind, StateT.bind, get, getThe, MonadStateOf.get, StateT.get, pure, hhandled, hfile]
  rfl

/-- **A call fails exactly as one of the linters fails that it runs**, each in the world to which those
in front of it led. -/
theorem lint_error_iff {config : Config} (h : ofConfig config = .ok r) {mode : Option String} {w : σ}
    {e : LintError} :
    (lint host r path mode w).1 = .error e ↔
      r.handles path mode = true ∧ host.isFile path w = true ∧ ∃ name spec w',
        Comes host r path (r.lintersFor path mode) w name w' ∧ r.linters.lookup name = some spec ∧
          (runLinter host r name spec path w').1 = .error e := by
  have hknown : ∀ name ∈ r.lintersFor path mode, ∃ spec, r.linters.lookup name = some spec := by
    intro name hname
    obtain ⟨l, hl, hname⟩ := List.mem_flatMap.mp hname
    obtain ⟨spec, -, hspec, -⟩ :=
      lookup_of_ofConfig h (ofConfig_languages h ▸ mem_languages_of_mem_languagesFor hl) hname
    exact ⟨spec, hspec⟩
  by_cases hidle : r.handles path mode = false ∨ host.isFile path w = false
  · -- nothing is run, and nothing is said
    rw [lint_idle hidle]
    apply iff_of_false
    · intro h
      cases h
    · rintro ⟨hhandled, hfile, -⟩
      simp [hhandled, hfile] at hidle
  · rw [not_or, Bool.not_eq_false, Bool.not_eq_false] at hidle
    rw [lint_runs hidle.1 hidle.2, ← runLinters_error_iff {} hknown]
    dsimp only
    cases (runLinters host r path (r.lintersFor path mode) {} w).1 with
    | error e' => simp [Except.map, hidle]
    | ok result => simp [Except.map]

end Registry

end LintGate
