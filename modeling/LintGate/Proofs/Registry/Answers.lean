/-
The answers that a call puts together.

A call on a path runs the linters of all languages that are responsible for it, in the order of
the languages and of each as it lists them. Whether a linter answers is seen from the end of its
process: it ended by itself, with zero or with a code that the linter finds with (`Returns`). As
long as the linters answer, one is run behind the other, each in the world that those in front
of it left (`Answers`); the first that errs ends the call (`Errs`), and the world is left as that
one left it. What a call says follows from the answers alone (`lint_folds`).
-/
import LintGate.Proofs.Files.Extension
import LintGate.Proofs.Registry.Missing

set_option autoImplicit false

namespace LintGate.Registry

variable {σ : Type} {host : Host σ} {r : Registry} {config : Config} {spec : LinterSpec}
  {name program path : String} {mode : Option String} {w u v : σ}

/-! ## One linter -/

/-- What a linter leaves that answers: how it is run, the exit code of its process, and what that wrote. -/
structure Answer where
  spec : LinterSpec
  code : Int
  out : Bytes

/-- Whether an answer tells findings: the code is not zero, and one that the linter finds with. -/
def Answer.Warns (a : Answer) : Prop := a.code ≠ 0 ∧ a.code ∈ a.spec.findingExitCodes

instance (a : Answer) : Decidable a.Warns := inferInstanceAs (Decidable (_ ∧ _))

/-- What an answer says. -/
def Answer.result (a : Answer) : LintResult := ⟨shownOutput a.out, decide a.Warns⟩

/-- Only a process that ended by itself is an answer, with zero or with a code that the linter finds
with. -/
theorem judge_eq_ok_iff {timeout : Nat} {ending : Ending} {result : LintResult} :
    judge name program path spec timeout ending = .ok result ↔ ∃ code out err,
      ending = .exited code out err ∧ (code = 0 ∨ code ∈ spec.findingExitCodes) ∧
        result = Answer.result ⟨spec, code, out⟩ := by
  have hexited : ∀ code out err, (code = 0 ∨ code ∈ spec.findingExitCodes) →
      judge name program path spec timeout (.exited code out err)
        = .ok (Answer.result ⟨spec, code, out⟩) := by
    intro code out err hdone
    rw [judge_exited hdone]
    rcases hdone with hzero | hfinding
    · simp [Answer.result, Answer.Warns, hzero]
    · simp [Answer.result, Answer.Warns, hfinding]
  constructor
  · intro h
    rcases judge_cases name program path spec timeout ending with
      ⟨code, out, err, rfl, hdone⟩ | rfl | ⟨message, hjudge⟩
    · rw [hexited code out err hdone] at h
      cases h
      exact ⟨code, out, err, rfl, hdone, rfl⟩
    · cases h
    · rw [hjudge] at h
      cases h
  · rintro ⟨code, out, err, rfl, hdone, rfl⟩
    exact hexited code out err hdone

/-- A linter of a configuration is run on a path in a world and answers. The words of its command, with
their places filled, are a program and its arguments; its process ends by itself, with zero or with a code
that the linter finds with. -/
structure Returns (host : Host σ) (config : Config) (path name : String) (w : σ) (a : Answer) (v : σ) :
    Prop where
  known : config.linter? name = some a.spec
  ends : ∃ reporter u program args err, reporterPlace host a.spec w = (.ok reporter, u) ∧
    argv a.spec path reporter = .ok (program :: args) ∧
      host.run program args config.timeout u = (.exited a.code a.out err, v)
  done : a.code = 0 ∨ a.code ∈ a.spec.findingExitCodes

/-- A linter of a configuration is run on a path in a world and errs. -/
def Errs (host : Host σ) (r : Registry) (config : Config) (path name : String) (w : σ) (e : LintError)
    (v : σ) : Prop :=
  ∃ spec, config.linter? name = some spec ∧ runLinter host r name spec path w = (.error e, v)

/-- The registry of a configuration holds a linter as the configuration has it, with a program, and runs it
for as long. -/
structure Holds (r : Registry) (config : Config) (name : String) (spec : LinterSpec) : Prop where
  lookup : r.linters.lookup name = some spec
  known : config.linter? name = some spec
  program : ∃ program, program? spec = some program
  timeout : r.timeout = config.timeout

/-- **A linter answers or errs.** -/
theorem Holds.returns_or_errs (h : Holds r config name spec) (host : Host σ) (path : String) (w : σ) :
    (∃ a v, Returns host config path name w a v) ∨ ∃ e v, Errs host r config path name w e v := by
  rcases hrun : runLinter host r name spec path w with ⟨answer, v⟩
  cases answer with
  | error e => exact .inr ⟨e, v, spec, h.known, hrun⟩
  | ok result =>
    left
    obtain ⟨first, hfirst⟩ := h.program
    rcases hplace : reporterPlace host spec w with ⟨place, u⟩
    cases place with
    | error e =>
      rw [runLinter_unplaced hplace] at hrun
      cases hrun
    | ok reporter =>
      obtain ⟨args, hargv⟩ := argv_of_program? hfirst path reporter
      rw [runLinter_placed hplace hargv, Prod.mk.injEq, h.timeout] at hrun
      obtain ⟨hjudge, hleft⟩ := hrun
      obtain ⟨code, out, err, hending, hdone, -⟩ := judge_eq_ok_iff.mp hjudge
      refine ⟨⟨spec, code, out⟩, v, h.known, ⟨reporter, u, _, args, err, hplace, hargv, ?_⟩, hdone⟩
      exact Prod.ext hending hleft

/-- A linter that answers says what its answer says. -/
theorem Returns.runLinter_eq {a : Answer} (h : Returns host config path name w a v)
    (htimeout : r.timeout = config.timeout) :
    runLinter host r name a.spec path w = (.ok a.result, v) := by
  obtain ⟨reporter, u, program, args, err, hplace, hargv, hrun⟩ := h.ends
  have hjudge : judge name program path a.spec config.timeout (.exited a.code a.out err) = .ok a.result :=
    judge_eq_ok_iff.mpr ⟨a.code, a.out, err, rfl, h.done, rfl⟩
  rw [runLinter_placed hplace hargv, htimeout, hrun, hjudge]

/-! ## One linter behind the other -/

/-- Linters are run in order, each in the world that those in front of it left, and all answer. -/
inductive Answers (host : Host σ) (config : Config) (path : String) :
    List String → σ → List Answer → σ → Prop where
  | nil {w : σ} : Answers host config path [] w [] w
  | cons {name : String} {names : List String} {w u v : σ} {a : Answer} {answers : List Answer}
      (h : Returns host config path name w a u) (hrest : Answers host config path names u answers v) :
      Answers host config path (name :: names) w (a :: answers) v

/-- What answers say one behind the other. -/
def merged (answers : List Answer) : LintResult :=
  ⟨String.join (answers.map fun a => shownOutput a.out), answers.any fun a => decide a.Warns⟩

theorem merge_merged_cons (result : LintResult) (a : Answer) (answers : List Answer) :
    (result.merge a.result).merge (merged answers) = result.merge (merged (a :: answers)) := by
  simp [LintResult.merge, Answer.result, merged, String.append_assoc, Bool.or_assoc]

/-- While the linters answer, the next ones are run with what has been said so far. -/
theorem Answers.runLinters_append {front : List String} {answers : List Answer}
    (h : Answers host config path front w answers v)
    (hholds : ∀ name ∈ front, ∃ spec, Holds r config name spec) (rest : List String)
    (result : LintResult) :
    runLinters host r path (front ++ rest) result w =
      runLinters host r path rest (result.merge (merged answers)) v := by
  induction h generalizing result with
  | nil => simp [merged, LintResult.merge]
  | @cons name names w u v a answers hreturns _ ih =>
    obtain ⟨spec, hspec⟩ := hholds name List.mem_cons_self
    have hsame : spec = a.spec := Option.some.inj (hspec.known.symm.trans hreturns.known)
    rw [List.cons_append, runLinters_cons hspec.lookup (hsame ▸ hreturns.runLinter_eq hspec.timeout)]
    show runLinters host r path (names ++ rest) (result.merge a.result) u = _
    rw [ih fun n hn => hholds n (List.mem_cons_of_mem _ hn), merge_merged_cons]

/-- When all have answered, that is what they say. -/
theorem Answers.runLinters_eq {names : List String} {answers : List Answer}
    (h : Answers host config path names w answers v)
    (hholds : ∀ name ∈ names, ∃ spec, Holds r config name spec) :
    runLinters host r path names {} w = (.ok (merged answers), v) := by
  have hall := h.runLinters_append hholds [] {}
  rw [List.append_nil] at hall
  rw [hall]
  show (Except.ok (LintResult.merge {} (merged answers)), v) = _
  simp [LintResult.merge]

/-- The first that errs is the last that is run. -/
theorem Answers.runLinters_error {front rest : List String} {answers : List Answer} {e : LintError}
    (h : Answers host config path front w answers u)
    (hholds : ∀ n ∈ front ++ name :: rest, ∃ spec, Holds r config n spec)
    (herrs : Errs host r config path name u e v) :
    runLinters host r path (front ++ name :: rest) {} w = (.error e, v) := by
  have hfront : ∀ n ∈ front, ∃ spec, Holds r config n spec := fun n hn =>
    hholds n (List.mem_append_left _ hn)
  obtain ⟨spec, hspec⟩ := hholds name (List.mem_append_right _ List.mem_cons_self)
  obtain ⟨spec', hknown, hrun⟩ := herrs
  have hsame : spec' = spec := Option.some.inj (hknown.symm.trans hspec.known)
  rw [h.runLinters_append hfront, runLinters_cons hspec.lookup (hsame ▸ hrun)]

/-- Either all linters answer, or there is a first that errs. -/
theorem answers_or_errs {names : List String} (hholds : ∀ name ∈ names, ∃ spec, Holds r config name spec)
    (host : Host σ) (path : String) (w : σ) :
    (∃ answers v, Answers host config path names w answers v) ∨
      ∃ front name rest answers u e v, names = front ++ name :: rest ∧
        Answers host config path front w answers u ∧ Errs host r config path name u e v := by
  induction names generalizing w with
  | nil => exact .inl ⟨[], w, .nil⟩
  | cons name names ih =>
    obtain ⟨spec, hspec⟩ := hholds name List.mem_cons_self
    rcases hspec.returns_or_errs host path w with ⟨a, u, hreturns⟩ | ⟨e, v, herrs⟩
    · have hrest : ∀ n ∈ names, ∃ spec, Holds r config n spec := fun n hn =>
        hholds n (List.mem_cons_of_mem _ hn)
      rcases ih hrest u with ⟨answers, v, hanswers⟩ |
        ⟨front, name', rest, answers, u', e, v, rfl, hanswers, herrs⟩
      · exact .inl ⟨a :: answers, v, .cons hreturns hanswers⟩
      · exact .inr ⟨name :: front, name', rest, a :: answers, u', e, v, rfl,
          .cons hreturns hanswers, herrs⟩
    · exact .inr ⟨[], name, names, [], w, e, v, rfl, .nil, herrs⟩

/-! ## A call -/

/-- The linters responsible for a path are in the registry as the configuration has them. -/
theorem holds_lintersFor (h : ofConfig config = .ok r) (hname : name ∈ r.lintersFor path mode) :
    ∃ spec, Holds r config name spec := by
  obtain ⟨l, hl, hname⟩ := List.mem_flatMap.mp hname
  obtain ⟨spec, program, hlookup, hspec, hprogram⟩ :=
    lookup_of_ofConfig h (ofConfig_languages h ▸ mem_languages_of_mem_languagesFor hl) hname
  refine ⟨spec, hlookup, hspec, ⟨program, hprogram⟩, ?_⟩
  obtain ⟨linters, -, h⟩ := exists_of_bind_eq_ok h
  cases h
  rfl

/-- A language is responsible for a path under a mode: it is the mode, if there is one, and lists the
extension of the path. -/
def Responsible (mode : Option String) (path : String) (l : String × Language) : Prop :=
  (∀ chosen, mode = some chosen → l.1 = chosen) ∧ ∃ ending ∈ l.2.extensions, Path.HasExtension path ending

theorem mem_languagesFor_iff (h : ofConfig config = .ok r) {l : String × Language} :
    l ∈ r.languagesFor path mode ↔ l ∈ config.languages ∧ Responsible mode path l := by
  rw [mem_languagesFor, ofConfig_languages h]
  constructor
  · rintro ⟨ending, hending, hl, hclaimed, hmode⟩
    exact ⟨hl, hmode, ending, hclaimed, Path.extension?_eq_some_iff.mp hending⟩
  · rintro ⟨hl, hmode, ending, hclaimed, hending⟩
    exact ⟨ending, Path.extension?_eq_some_iff.mpr hending, hl, hclaimed, hmode⟩

/-- The languages that claim a path keep their order. -/
theorem languagesFor_ascending (h : Ascending r.languages) : Ascending (r.languagesFor path mode) := by
  unfold languagesFor
  cases Path.extension? path with
  | none => exact .nil
  | some ending => exact h.sublist List.filter_sublist

theorem handles_iff (h : ofConfig config = .ok r) :
    r.handles path mode = true ↔ ∃ l ∈ config.languages, Responsible mode path l := by
  unfold handles
  rw [Bool.not_eq_true', List.isEmpty_eq_false_iff_exists_mem]
  exact exists_congr fun l => mem_languagesFor_iff h

/-- **A call is the ordered fold of all linters that are responsible.** The languages that claim a path are
those that list its extension and that the mode admits, in the order of their names; a path is handled if
there is one. A call on a path that is not handled, or that leads to no file, says nothing and leaves the
world as it is. Otherwise the linters of these languages are run in order, as often as they are listed.
Either all answer, or there is a first that errs. If all answer, the call says what they wrote, one behind
the other, with warnings if the code of one of them tells findings; if one errs, the call ends with its
error, in the world that this one left. -/
theorem lint_folds (host : Host σ) (h : ofConfig config = .ok r) (hnames : Ascending config.languages)
    (path : String) (mode : Option String) (w : σ) :
    Ascending (r.languagesFor path mode) ∧
    (∀ l, l ∈ r.languagesFor path mode ↔ l ∈ config.languages ∧ Responsible mode path l) ∧
    (r.handles path mode = true ↔ ∃ l ∈ config.languages, Responsible mode path l) ∧
    (r.handles path mode = false ∨ host.isFile path w = false → lint host r path mode w = (.ok none, w)) ∧
    ∀ names, names = ((r.languagesFor path mode).flatMap fun l => l.2.linters) →
      r.handles path mode = true → host.isFile path w = true →
        ((∃ answers v, Answers host config path names w answers v) ∨
          ∃ front name rest answers u e v, names = front ++ name :: rest ∧
            Answers host config path front w answers u ∧ Errs host r config path name u e v) ∧
        (∀ answers v, Answers host config path names w answers v →
          ∃ result, lint host r path mode w = (.ok (some result), v) ∧
            result.text = String.join (answers.map fun a => shownOutput a.out) ∧
            (result.warned = true ↔ ∃ a ∈ answers, a.code ≠ 0 ∧ a.code ∈ a.spec.findingExitCodes)) ∧
        ∀ front name rest answers u e v, names = front ++ name :: rest →
          Answers host config path front w answers u → Errs host r config path name u e v →
            lint host r path mode w = (.error e, v) := by
  refine ⟨?_, fun l => mem_languagesFor_iff h, handles_iff h, lint_idle, ?_⟩
  · apply languagesFor_ascending
    rw [ofConfig_languages h]
    exact hnames
  intro names hlinters hhandled hfile
  have hlist : r.lintersFor path mode = names := hlinters.symm
  have hholds : ∀ name ∈ names, ∃ spec, Holds r config name spec := by
    intro name hname
    rw [← hlist] at hname
    exact holds_lintersFor h hname
  have hruns := lint_runs hhandled hfile
  rw [hlist] at hruns
  refine ⟨answers_or_errs hholds host path w, ?_, ?_⟩
  · intro answers v hanswers
    refine ⟨merged answers, ?_, rfl, ?_⟩
    · rw [hruns, hanswers.runLinters_eq hholds]
      rfl
    · show (answers.any fun a => decide a.Warns) = true ↔ ∃ a ∈ answers, a.Warns
      simp
  · intro front name rest answers u e v hsplit hanswers herrs
    rw [hruns, hsplit, hanswers.runLinters_error (hsplit ▸ hholds) herrs]
    rfl

/-! ## A host that keeps a record -/

/-- A host that notes the programs it starts. One of them ends with findings, one with another code. -/
def notingHost : Host (List String) where
  run program _ _ := fun started =>
    (.exited (if program = "finds" then 1 else if program = "fails" then 2 else 0)
      (Bytes.ofText (program ++ "|E1|x\n")) [], started ++ [program])
  isFile _ _ := true
  reporterDirectory := pure (.ok "/reporters")

/-- Two languages that claim one extension. The first lists a linter twice. -/
def sharedConfig : Config where
  languages := [("first", ⟨["py"], ["finds", "finds"]⟩), ("other", ⟨["py", "js"], ["quiet"]⟩)]
  linters := [("finds", { command := "finds \x7bpath\x7d" }),
    ("quiet", { command := "quiet \x7bpath\x7d" })]

/-- Its registry. -/
def sharedRegistry : Registry where
  languages := sharedConfig.languages
  linters := sharedConfig.linters
  timeout := 60

theorem lint_folds_shared :
    ofConfig sharedConfig = .ok sharedRegistry ∧ Ascending sharedConfig.languages ∧
      ∃ result, lint notingHost sharedRegistry "src/a.py" none [] =
          (.ok (some result), ["finds", "finds", "quiet"]) ∧
        result.text = "finds|E1|x\nfinds|E1|x\nquiet|E1|x\n" ∧ result.warned = true := by
  have hregistry : ofConfig sharedConfig = .ok sharedRegistry := rfl
  have hascending : Ascending sharedConfig.languages := by decide
  obtain ⟨-, -, -, -, hfold⟩ := lint_folds notingHost hregistry hascending "src/a.py" none []
  obtain ⟨-, hanswers, -⟩ := hfold ["finds", "finds", "quiet"] (by decide +kernel) (by decide +kernel) rfl
  refine ⟨hregistry, hascending, ?_⟩
  have hfinds : ∀ started, Returns notingHost sharedConfig "src/a.py" "finds" started
      ⟨{ command := "finds \x7bpath\x7d" }, 1, Bytes.ofText "finds|E1|x\n"⟩ (started ++ ["finds"]) :=
    fun started =>
      ⟨rfl, ⟨none, started, "finds", ["src/a.py"], [], rfl, by decide +kernel, rfl⟩, by decide⟩
  have hquiet : ∀ started, Returns notingHost sharedConfig "src/a.py" "quiet" started
      ⟨{ command := "quiet \x7bpath\x7d" }, 0, Bytes.ofText "quiet|E1|x\n"⟩ (started ++ ["quiet"]) :=
    fun started =>
      ⟨rfl, ⟨none, started, "quiet", ["src/a.py"], [], rfl, by decide +kernel, rfl⟩, by decide⟩
  obtain ⟨result, hlint, htext, hwarned⟩ :=
    hanswers _ _ (.cons (hfinds []) (.cons (hfinds _) (.cons (hquiet _) .nil)))
  refine ⟨result, hlint, ?_, ?_⟩
  · rw [htext]
    decide +kernel
  · rw [hwarned]
    exact ⟨_, List.mem_cons_self, by decide, by decide⟩

end LintGate.Registry
