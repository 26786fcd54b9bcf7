/-
The check of a program and its start.

The check before a run asks in the directory of the invocation whether the first word of a
linter's command can be found. The start asks elsewhere and for something else: a linter is
started in the root of the working tree, and the word has its places filled by then. Where
the two answers differ, either a linter that is there is refused, or one that is missing
ends the run when the workspace is already taken apart.

`Registry.missingFor_foretells_start` says when they are the same. For a program whose
places are plain, what the check reports is what the start fails with exactly if the word is
found in the directory of the invocation as what is put for it is found in the root; and if
the word has no places, exactly if it has no bar, or stands for a program in both
directories or in none. `Registry.missingFor_misses_start` is a linter of a working tree for
which this is not so, from a directory below the root.
-/
import LintGate.Proofs.Programs
import LintGate.Proofs.Registry.Missing
import LintGate.Sandbox.System

set_option autoImplicit false

namespace LintGate

open Programs (Image Plain SameFrom findImage isFound isProgramAt placesOf)

variable {σ : Type}

/-! ## Hosts that start what a disk has -/

/-- In a world a host starts programs as a disk has them, in a directory. A start that is refused tells
why, and a program that runs is not told to be missing. -/
structure Host.StartsFrom (host : Host σ) (disk : Folder) (root : String) (searched : List String)
    (w : σ) : Prop where
  refused : ∀ (program : String) (args : List String) (timeout : Nat) (fault : Fault),
    (∀ word ∈ program :: args, '\x00' ∉ word.toList) →
      findImage disk root searched program = .error fault →
        ((host.run program args timeout w).1 = .notFound ↔ fault = .notFound)
  started : ∀ (program : String) (args : List String) (timeout : Nat) (image : Image),
    findImage disk root searched program = .ok image → image.Runs disk →
      (host.run program args timeout w).1 ≠ .notFound

namespace Sandbox

theorem endingOf_ne_notFound (timeout : Nat) (result : Result) : endingOf timeout result ≠ .notFound := by
  unfold endingOf
  by_cases htime : (0 < result.time && timeout * 1000 ≤ result.time) = true
  · rw [if_pos htime]
    intro h
    cases h
  · rw [if_neg htime]
    cases result.status with
    | exit code =>
      intro h
      cases h
    | signal number =>
      intro h
      cases h

/-- A process whose program is not found in the search is not started. -/
theorem execute_of_error {call : Call} {m : Machine} {fault : Fault}
    (h : findImage m.disk call.cwd m.searched (call.words.headD "") = .error fault) :
    execute call m = (.error fault, m) := by
  unfold execute depth start
  simp only [bind, StateT.bind, get, getThe, MonadStateOf.get, StateT.get, pure, h]
  rfl

/-- A program of the machine leaves a result. -/
theorem start_builtin {n : Nat} {call : Call} {m : Machine} {tool : String}
    (h : findImage m.disk call.cwd m.searched (call.words.headD "") = .ok (.builtin tool)) :
    ∃ result, (start (n + 1) call m).1 = .ok result := by
  unfold start
  simp only [bind, StateT.bind, get, getThe, MonadStateOf.get, StateT.get, pure, h]
  exact ⟨_, rfl⟩

/-- A program that runs leaves a result. -/
theorem execute_of_runs {call : Call} {m : Machine} {image : Image}
    (h : findImage m.disk call.cwd m.searched (call.words.headD "") = .ok image)
    (hruns : image.Runs m.disk) : ∃ result, (execute call m).1 = .ok result := by
  cases image with
  | builtin tool => exact start_builtin h
  | script interpreter argument path =>
    obtain ⟨habsolute, tool, htool⟩ := hruns
    -- the interpreter is started under its path
    have hinterpreter : findImage m.disk call.cwd m.searched interpreter = .ok (.builtin tool) :=
      (Programs.findImage_of_isAbsolute habsolute).trans htool
    unfold execute depth start
    simp only [bind, StateT.bind, get, getThe, MonadStateOf.get, StateT.get, pure, h]
    exact start_builtin hinterpreter

/-- **The linters of a machine are started as its disk has them.** -/
theorem host_startsFrom (dir : String) (m : Machine) :
    (host dir).StartsFrom m.disk dir m.searched m := by
  constructor
  · intro program args timeout fault hwords h
    have hnul : ((program :: args).any fun w => w.toList.contains '\x00') = false := by
      rw [List.any_eq_false]
      intro word hword
      rw [List.contains_iff_mem]
      exact hwords word hword
    show (runIn dir program args timeout m).1 = .notFound ↔ _
    unfold runIn
    simp only [hnul, Bool.false_eq_true, if_false, bind, StateT.bind]
    rw [execute_of_error h]
    cases fault with
    | notFound => exact iff_of_true rfl rfl
    | _ =>
      apply iff_of_false
      · intro h
        cases h
      · intro h
        cases h
  · intro program args timeout image h hruns
    show (runIn dir program args timeout m).1 ≠ .notFound
    unfold runIn
    by_cases hnul : ((program :: args).any fun w => w.toList.contains '\x00') = true
    · rw [if_pos hnul]
      intro h
      cases h
    rw [if_neg hnul]
    -- what was started leaves a result, and a result has another ending
    have hleft : ∃ result, (execute
        { words := program :: args, cwd := dir, environment := standardEnvironment } m).1 = .ok result :=
      execute_of_runs h hruns
    obtain ⟨result, hresult⟩ := hleft
    simp only [bind, StateT.bind]
    rcases hexecuted : execute
      { words := program :: args, cwd := dir, environment := standardEnvironment } m with ⟨answer, m'⟩
    rw [hexecuted] at hresult
    rw [show answer = .ok result from hresult]
    exact endingOf_ne_notFound timeout result

end Sandbox

namespace Registry

variable {host : Host σ} {r : Registry} {disk : Folder} {root : String} {searched : List String}
  {spec : LinterSpec} {name program path : String} {rest : List String} {reporter : Option String} {w : σ}

/-! ## A linter that is not there -/

/-- The failure of a linter whose program is missing when it is started. -/
def unfound (name program : String) : LintError :=
  .config ("linter \"" ++ name ++ "\" needs \x60" ++ program ++ "\x60, which is not on PATH")

/-- A run is judged so only if its program was missing. -/
theorem judge_eq_unfound_iff {timeout : Nat} {ending : Ending} :
    judge name program path spec timeout ending = .error (unfound name program) ↔ ending = .notFound := by
  constructor
  · intro h
    rcases judge_cases name program path spec timeout ending with
      ⟨_, _, _, rfl, hdone⟩ | hmissing | ⟨_, hjudge⟩
    · rw [judge_exited hdone] at h
      cases h
    · exact hmissing
    · rw [hjudge] at h
      cases h
  · intro h
    rw [h]
    rfl

/-- A linter is handed to a host in a world: its script lies where it is said to, if it has one, the words
of its command can be passed to a process, and the host starts programs as a disk has them. -/
structure Handed (host : Host σ) (disk : Folder) (root : String) (searched : List String)
    (spec : LinterSpec) (words : List String) (path : String) (reporter : Option String) (w : σ) :
    Prop where
  placed : (reporterPlace host spec w).1 = .ok reporter
  passed : ∀ word ∈ words, '\x00' ∉ (fill path reporter word).toList
  starts : host.StartsFrom disk root searched (reporterPlace host spec w).2

/-- What is run is the command with its places filled, and it is judged by how it ends. -/
theorem runLinter_eq (hwords : Text.words? spec.command = some (program :: rest))
    (hplaced : (reporterPlace host spec w).1 = .ok reporter) :
    (runLinter host r name spec path w).1 =
      judge name (fill path reporter program) path spec r.timeout
        (host.run (fill path reporter program) (rest.map (fill path reporter)) r.timeout
          (reporterPlace host spec w).2).1 := by
  have hargv : argv spec path reporter
      = .ok (fill path reporter program :: rest.map (fill path reporter)) := by
    simp only [argv, hwords, List.map_cons]
  rw [runLinter_placed (Prod.ext hplaced rfl) hargv]

/-- **A linter that is handed over fails for its program exactly if the start does not find it**, where
what is found runs. -/
theorem runLinter_eq_unfound_iff (hwords : Text.words? spec.command = some (program :: rest))
    (h : Handed host disk root searched spec (program :: rest) path reporter w)
    (hruns : ∀ image, findImage disk root searched (fill path reporter program) = .ok image →
      image.Runs disk) :
    (runLinter host r name spec path w).1 = .error (unfound name (fill path reporter program)) ↔
      findImage disk root searched (fill path reporter program) = .error .notFound := by
  rw [runLinter_eq hwords h.placed, judge_eq_unfound_iff]
  have hpassed : ∀ word ∈ fill path reporter program :: rest.map (fill path reporter),
      '\x00' ∉ word.toList := by
    rw [← List.map_cons, List.forall_mem_map]
    exact h.passed
  cases himage : findImage disk root searched (fill path reporter program) with
  | ok image =>
    apply iff_of_false
    · exact h.starts.started _ _ _ image himage (hruns image himage)
    · intro herror
      cases herror
  | error fault =>
    rw [h.starts.refused _ _ _ fault hpassed himage, Except.error.injEq]

/-! ## The check and the start -/

/-- A linter of a language is reported as missing for a path. -/
def Reported (found : String → Bool) (r : Registry) (path : String) (mode : Option String)
    (language name : String) : Prop :=
  ∃ m ∈ missingFor found r [path] mode, m.language = language ∧ m.linter = name

/-- What is reported for a path are the linters of the languages responsible for it whose first word is not
found. -/
theorem reported_iff {config : Config} (h : ofConfig config = .ok r)
    (hnames : (config.languages.map (·.1)).Nodup) {found : String → Bool} {mode : Option String}
    {l : String × Language} (hl : l ∈ r.languagesFor path mode) (hname : name ∈ l.2.linters)
    (hprogram : config.program? name = some program) :
    Reported found r path mode l.1 name ↔ found program = false := by
  unfold Reported
  constructor
  · rintro ⟨m, hm, -, rfl⟩
    obtain ⟨_, -, _, -, -, -, hfirst, hmissing⟩ := (mem_missingFor h hnames).mp hm
    rw [hprogram] at hfirst
    rw [Option.some.inj hfirst]
    exact hmissing
  · intro hmissing
    refine ⟨⟨l.1, name, program⟩, ?_, rfl, rfl⟩
    exact (mem_missingFor h hnames).mpr
      ⟨path, List.mem_singleton_self _, l, hl, rfl, hname, hprogram, hmissing⟩

/-- What the check says of a linter for a path is what comes of running it. -/
def Foretold (found : String → Bool) (host : Host σ) (r : Registry) (path : String) (mode : Option String)
    (language name : String) (spec : LinterSpec) (program : String) (w : σ) : Prop :=
  Reported found r path mode language name ↔
    (runLinter host r name spec path w).1 = .error (unfound name program)

/-- **The check foretells the start exactly if both find the same.** What is reported for a path and what a
call runs are linters of the languages responsible for it. Such a linter is reported exactly if the first
word of its command stands for no program as seen from the directory of the check. It fails for its program
exactly if what the word becomes for the path is not found from the root, as long as what is found there
runs. So for plain places the check foretells what happens if and only if the word is found in the one
directory as what it becomes is found in the other; and for a word that no place changes, if and only if it
has no bar or stands for a program in both directories or in none. -/
theorem missingFor_foretells_start (host : Host σ) {config : Config} (h : ofConfig config = .ok r)
    (hnames : (config.languages.map (·.1)).Nodup) (disk : Folder) (cwd root : String)
    (searched : List String) (path : String) (mode : Option String) :
    (∀ m ∈ missingFor (isFound disk cwd searched) r [path] mode,
      ∃ l ∈ r.languagesFor path mode, m.language = l.1 ∧ m.linter ∈ l.2.linters) ∧
    (∀ w name w', Comes host r path (r.lintersFor path mode) w name w' →
      ∃ l ∈ r.languagesFor path mode, name ∈ l.2.linters) ∧
    ∀ l ∈ r.languagesFor path mode, ∀ name ∈ l.2.linters, ∃ spec program rest,
      r.linters.lookup name = some spec ∧ Text.words? spec.command = some (program :: rest) ∧
      (Reported (isFound disk cwd searched) r path mode l.1 name ↔
        ∀ p ∈ placesOf cwd searched program, isProgramAt disk p = false) ∧
      ∀ reporter w, Handed host disk root searched spec (program :: rest) path reporter w →
        ((∀ image, findImage disk root searched (fill path reporter program) = .ok image →
            image.Runs disk) →
          ((runLinter host r name spec path w).1
              = .error (unfound name (fill path reporter program)) ↔
            findImage disk root searched (fill path reporter program) = .error .notFound)) ∧
        ((∀ p ∈ placesOf root searched (fill path reporter program), Plain disk p) →
          (Foretold (isFound disk cwd searched) host r path mode l.1 name spec
              (fill path reporter program) w ↔
            isFound disk cwd searched program
              = isFound disk root searched (fill path reporter program)) ∧
          (fill path reporter program = program →
            (Foretold (isFound disk cwd searched) host r path mode l.1 name spec program w ↔
              SameFrom disk cwd root program))) := by
  refine ⟨?_, ?_, ?_⟩
  · intro m hm
    obtain ⟨_, hpath, l, hl, hlanguage, hlinter, -⟩ := (mem_missingFor h hnames).mp hm
    rw [List.mem_singleton.mp hpath] at hl
    exact ⟨l, hl, hlanguage, hlinter⟩
  · intro w name w' hcomes
    exact List.mem_flatMap.mp hcomes.mem
  intro l hl name hname
  obtain ⟨spec, program, hlookup, hspec, hprogram⟩ :=
    lookup_of_ofConfig h (ofConfig_languages h ▸ mem_languages_of_mem_languagesFor hl) hname
  -- the first word of the command
  obtain ⟨rest, hwords⟩ := Registry.program?_eq_some_iff.mp hprogram
  have hconfig : config.program? name = some program := by
    rw [Config.program?, hspec]
    exact hprogram
  have hreported : Reported (isFound disk cwd searched) r path mode l.1 name ↔
      isFound disk cwd searched program = false := reported_iff h hnames hl hname hconfig
  refine ⟨spec, program, rest, hlookup, hwords, ?_, ?_⟩
  · rw [hreported, Programs.isFound_eq, List.any_eq_false]
    simp only [Bool.not_eq_true]
  intro reporter w hhanded
  refine ⟨runLinter_eq_unfound_iff hwords hhanded, fun hplain => ?_⟩
  have hsettled := Programs.findImage_settled hplain
  -- both sides are told by whether the program is found
  have hforetold : Foretold (isFound disk cwd searched) host r path mode l.1 name spec
      (fill path reporter program) w ↔ isFound disk cwd searched program
        = isFound disk root searched (fill path reporter program) := by
    unfold Foretold
    rw [hreported, runLinter_eq_unfound_iff hwords hhanded fun _ => hsettled.runs,
      hsettled.notFound_iff]
    cases isFound disk cwd searched program <;>
      cases isFound disk root searched (fill path reporter program) <;> decide
  refine ⟨hforetold, fun hsame => ?_⟩
  rw [hsame] at hforetold
  exact hforetold.trans Programs.isFound_eq_iff

/-! ## A linter of the working tree -/

/-- A linter that is told by a path. -/
def treeSpec : LinterSpec := ⟨"tools/lint \x7bpath\x7d", [1], none⟩

def treeConfig : Config where
  languages := [("javascript", ⟨["js"], ["own"]⟩)]
  linters := [("own", treeSpec)]

def treeRegistry : Registry where
  languages := treeConfig.languages
  linters := treeConfig.linters
  timeout := 60

theorem ofConfig_tree : ofConfig treeConfig = .ok treeRegistry := rfl

theorem words_tree : Text.words? treeSpec.command = some ["tools/lint", "\x7bpath\x7d"] := by
  decide +kernel

/-- A machine with a working tree that has a script, and folders of programs in its root and in a directory
below. -/
def treeMachine (inRoot below : Folder) : Sandbox.Machine where
  disk := [("work", .folder [("a.js", .file [] false), ("sub", .folder [("tools", .folder below)]),
    ("tools", .folder inRoot)])]
  searched := ["/bin"]

/-- A folder with the linter. -/
def lintFolder : Folder := [("lint", Programs.builtin "true")]

/-- A machine that has the linter in both directories. -/
def bothMachine : Sandbox.Machine := treeMachine lintFolder lintFolder

/-- A linter that is there in both directories: nothing is reported, and it is started. -/
theorem missingFor_foretells_start_both :
    ¬Reported (isFound bothMachine.disk "/work/sub" ["/bin"]) treeRegistry "a.js" none "javascript"
        "own" ∧
      (runLinter (Sandbox.host "/work") treeRegistry "own" treeSpec "a.js" bothMachine).1
        ≠ .error (unfound "own" "tools/lint") := by
  have hnames : (treeConfig.languages.map (·.1)).Nodup := by decide
  have hclaims : ("javascript", ⟨["js"], ["own"]⟩) ∈ treeRegistry.languagesFor "a.js" none := by
    decide +kernel
  obtain ⟨-, -, hlinters⟩ := missingFor_foretells_start (Sandbox.host "/work") ofConfig_tree hnames
    bothMachine.disk "/work/sub" "/work" ["/bin"] "a.js" none
  obtain ⟨spec, program, rest, hlookup, hwords, hreported, hstart⟩ :=
    hlinters _ hclaims "own" (List.mem_singleton_self _)
  obtain rfl : treeSpec = spec := Option.some.inj hlookup
  obtain ⟨rfl, rfl⟩ := List.cons.inj (Option.some.inj (words_tree.symm.trans hwords))
  have hfill : fill "a.js" none "tools/lint" = "tools/lint" := by decide +kernel
  have hhanded : Handed (Sandbox.host "/work") bothMachine.disk "/work" ["/bin"] treeSpec
      ["tools/lint", "\x7bpath\x7d"] "a.js" none bothMachine :=
    ⟨rfl, by decide +kernel, Sandbox.host_startsFrom "/work" bothMachine⟩
  obtain ⟨-, hplaces⟩ := hstart none bothMachine hhanded
  rw [hfill] at hplaces
  have hplain : ∀ p ∈ placesOf "/work" ["/bin"] "tools/lint", Plain bothMachine.disk p := by
    have hplace : placesOf "/work" ["/bin"] "tools/lint" = ["/work/tools/lint"] := by decide +kernel
    have himage : Programs.imageAt bothMachine.disk "/work/tools/lint" = .ok (.builtin "true") := by
      decide +kernel
    rw [hplace, List.forall_mem_singleton]
    exact .inl ⟨_, himage, trivial⟩
  have hsame : SameFrom bothMachine.disk "/work/sub" "/work" "tools/lint" := fun _ => by decide +kernel
  have hnot : ¬Reported (isFound bothMachine.disk "/work/sub" ["/bin"]) treeRegistry "a.js" none
      "javascript" "own" := by
    rw [hreported]
    decide +kernel
  -- so the run does not end so either
  exact ⟨hnot, fun hfails => hnot ((((hplaces hplain).2 rfl).mpr hsame).mpr hfails)⟩

/-- **A linter for which the check and the start differ.** The invocation is made below the root. A linter
that is there only is not reported, and ends the linting; one that lies in the root is reported, and could
be run. -/
theorem missingFor_misses_start :
    ofConfig treeConfig = .ok treeRegistry ∧
      missingFor (Sandbox.hasProgram (treeMachine [] lintFolder) "/work/sub") treeRegistry ["a.js"] none
        = [] ∧
      (lint (Sandbox.host "/work") treeRegistry "a.js" none (treeMachine [] lintFolder)).1
        = .error (unfound "own" "tools/lint") ∧
      missingFor (Sandbox.hasProgram (treeMachine lintFolder []) "/work/sub") treeRegistry ["a.js"] none
        = [⟨"javascript", "own", "tools/lint"⟩] ∧
      (lint (Sandbox.host "/work") treeRegistry "a.js" none (treeMachine lintFolder [])).1
        = .ok (some {}) := by
  refine ⟨ofConfig_tree, ?_, ?_, ?_, ?_⟩
  · decide +kernel
  · decide +kernel
  · decide +kernel
  · decide +kernel

end Registry

end LintGate
