/-
What a crash on one file takes out of the results.

Each list of results loses the entries of the files that failed and keeps all others, in
their order: `excludeFailures_eq` says so of all five lists at once. Four of them are read
by a file's name in the commit, so a file that did not fail keeps what it had. The fifth,
the results of renamed files before the commit, is read by old names, and an old name may
be shared: by another rename from the same file, or by a file that stayed, or came, under
the name the other one left. If such a file fails, the renamed one loses its result before
the commit although no linter crashed on it. `exclusion_confined` says exactly when that
happens, and the run at the end shows what comes of it.
-/
import LintGate.Proofs.Gate.Agreement

set_option autoImplicit false

namespace LintGate

/-! ## Some of the results -/

namespace Results

variable {m : Results}

/-- The results of the paths that a test accepts. -/
def keep (m : Results) (p : String → Bool) : Results := ⟨m.entries.filter fun e => p e.1⟩

theorem paths_keep (m : Results) (p : String → Bool) : (m.keep p).paths = m.paths.filter p := by
  rw [paths, paths, keep, List.filter_map]
  rfl

theorem keep_keep (m : Results) (p q : String → Bool) :
    (m.keep p).keep q = m.keep fun path => p path && q path := by
  simp only [keep, List.filter_filter, Bool.and_comm]

theorem get?_keep (m : Results) (p : String → Bool) (path : String) :
    (m.keep p).get? path = if p path then m.get? path else none := by
  obtain ⟨entries⟩ := m
  unfold keep
  induction entries with
  | nil => exact (ite_self _).symm
  | cons e entries ih =>
    rw [List.filter_cons, get?_cons]
    by_cases hp : p e.1 = true
    · rw [if_pos hp, get?_cons, ih]
      by_cases h : path = e.1
      · rw [if_pos h, if_pos h, if_pos (h ▸ hp)]
      · rw [if_neg h, if_neg h]
    · rw [if_neg hp, ih]
      by_cases h : path = e.1
      · rw [if_neg (h ▸ hp), if_neg (h ▸ hp)]
      · rw [if_neg h]

/-- Where every path stands once, taking one out keeps the others. -/
theorem erase_eq_keep (h : m.paths.Nodup) (path : String) : m.erase path = m.keep (· != path) := by
  obtain ⟨entries⟩ := m
  simp only [erase, keep, mk.injEq]
  induction entries with
  | nil => rfl
  | cons e entries ih =>
    have hnew : e.1 ∉ entries.map (·.1) := (List.nodup_cons.mp h).1
    have hrest : (entries.map (·.1)).Nodup := (List.nodup_cons.mp h).2
    by_cases he : e.1 = path
    · -- no entry behind it has its path
      have hall : ∀ e' ∈ entries, (e'.1 != path) = true := by
        intro e' he'
        refine bne_iff_ne.mpr fun heq => hnew ?_
        rw [he, ← heq]
        exact List.mem_map_of_mem he'
      rw [List.eraseP_cons_of_pos (by simpa using he), List.filter_cons_of_neg (by simpa using he),
        List.filter_eq_self.mpr hall]
    · rw [List.eraseP_cons_of_neg (by simpa using he), List.filter_cons_of_pos (by simpa using he),
        ih hrest]

end Results

/-! ## Results without the files that failed -/

namespace Snapshots

/-- Every path stands once in each of the lists. -/
structure Distinct (s : Snapshots) : Prop where
  current : s.current.paths.Nodup
  added : s.added.paths.Nodup
  currentRenamed : s.currentRenamed.paths.Nodup
  baseline : s.baseline.paths.Nodup
  baselineRenamed : s.baselineRenamed.paths.Nodup

/-- The files that a linter crashed on, by their names in the commit. -/
def failed (s : Snapshots) : List String := s.failures.map (·.path)

/-- The results without those of some files. -/
def without (s : Snapshots) (files : StagedFiles) (paths : List String) : Snapshots :=
  { s with
    current := s.current.keep fun p => !paths.contains p
    baseline := s.baseline.keep fun p => !paths.contains p
    added := s.added.keep fun p => !paths.contains p
    currentRenamed := s.currentRenamed.keep fun p => !paths.contains p
    baselineRenamed := s.baselineRenamed.keep fun p => !(paths.map files.baselineName).contains p }

variable {s : Snapshots}

theorem Distinct.without (h : s.Distinct) (files : StagedFiles) (paths : List String) :
    (s.without files paths).Distinct := by
  constructor <;> rw [Snapshots.without, Results.paths_keep]
  exacts [h.current.filter _, h.added.filter _, h.currentRenamed.filter _, h.baseline.filter _,
    h.baselineRenamed.filter _]

theorem exclude_eq_without (h : s.Distinct) (files : StagedFiles) (path : String) :
    s.exclude files path = s.without files [path] := by
  have hone : ∀ name : String, (fun p => !List.contains [name] p) = fun p => p != name := by
    intro name
    funext p
    rw [List.contains_cons, List.contains_nil, Bool.or_false]
    rfl
  simp only [exclude, without, List.map_cons, List.map_nil, hone,
    Results.erase_eq_keep h.current, Results.erase_eq_keep h.baseline, Results.erase_eq_keep h.added,
    Results.erase_eq_keep h.currentRenamed, Results.erase_eq_keep h.baselineRenamed]

theorem without_without (s : Snapshots) (files : StagedFiles) (path : String) (paths : List String) :
    (s.without files [path]).without files paths = s.without files (path :: paths) := by
  have hmore : ∀ (name : String) (names : List String),
      (fun p => !List.contains [name] p && !names.contains p)
        = fun p => !List.contains (name :: names) p := by
    intro name names
    funext p
    rw [List.contains_cons, List.contains_cons, List.contains_nil, Bool.or_false, Bool.not_or]
  simp only [without, Results.keep_keep, List.map_cons, List.map_nil, hmore]

/-- **Excluding the files that failed** takes their entries out of the five lists, and no others. -/
theorem excludeFailures_eq (h : s.Distinct) (files : StagedFiles) :
    s.excludeFailures files = s.without files s.failed := by
  rw [excludeFailures, failed]
  generalize s.failures = failures
  induction failures generalizing s with
  | nil =>
    simp only [List.foldl_nil, List.map_nil, without, List.contains_nil, Bool.not_false,
      Results.keep, List.filter_true]
  | cons failure failures ih =>
    rw [List.foldl_cons, exclude_eq_without h, ih (h.without files _), List.map_cons,
      without_without]

end Snapshots

namespace Snapshot

variable {σ : Type} {vcs : VersionControl σ} {linter : Linter σ} {mode : Option String}
  {files : StagedFiles} {verbose : Bool}

theorem Course.distinct {es : List Event} {s : Snapshots} (h : Course mode files es (.ok s)) :
    s.Distinct := by
  generalize hr : Except.ok s = r at h
  cases h with
  | headUnread => cases hr
  | unbornAborted => cases hr
  | mergeUnread => cases hr
  | unborn h =>
    obtain rfl := Except.ok.inj hr
    obtain ⟨m, a, r, -, hm, ha, hrenamed, rfl⟩ := h
    exact ⟨(gathered_over hm).1, (gathered_over ha).1, (gathered_over hrenamed).1, List.nodup_nil,
      List.nodup_nil⟩
  | @isolated merge inside back unstaged staged linted d h h' =>
    rw [settled] at hr
    split at hr
    swap
    · cases hr
    subst hr
    cases h with
    | both hcommitted hbaseline =>
      obtain ⟨m, a, r, -, hm, ha, hr, rfl⟩ := hcommitted
      obtain ⟨m', r', -, hm', hr', rfl⟩ := hbaseline
      exact ⟨(gathered_over hm).1, (gathered_over ha).1, (gathered_over hr).1,
        (gathered_over hm').1, (gathered_over hr').1⟩

theorem take_distinct {s s' : Session σ} {snap : Snapshots}
    (h : take vcs linter mode files verbose s = (.ok snap, s')) : snap.Distinct := by
  obtain ⟨es, -, -, hruns⟩ := does_take vcs linter mode files verbose s
  rw [h, Runs] at hruns
  split at hruns
  · exact hruns.distinct
  · obtain rfl := Except.ok.inj hruns.2
    constructor <;> exact List.nodup_nil

end Snapshot

/-! ## Judgements without the files that failed -/

namespace Gate

variable {files : StagedFiles} {s : Snapshots} {path : String}

/-- Whether a file has a result on the committed side, in any role. -/
def HasResult (s : Snapshots) (path : String) : Prop :=
  path ∈ s.current.paths ∨ path ∈ s.added.paths ∨ path ∈ s.currentRenamed.paths

theorem hasResult_of_verdict {matcher : Matcher} {v : Verdict}
    (h : (path, v) ∈ (judge matcher files s).verdicts) : HasResult s path := by
  simp only [judge, List.mem_append, List.mem_map, Prod.mk.injEq] at h
  rcases h with (⟨_, h, rfl, -⟩ | ⟨e, he, rfl, -⟩) | ⟨_, h, rfl, -⟩
  · exact .inl h
  · exact .inr (.inl (List.mem_map_of_mem he))
  · exact .inr (.inr h)

theorem hasResult_of_mem_allDeltas {d : FileDelta} (h : d ∈ allDeltas files s) :
    HasResult s d.path := by
  rcases List.mem_append.mp h with h | h
  · obtain ⟨result, hentry, -, -⟩ := Comparison.exists_of_mem_deltas h
    exact .inl (List.mem_map_of_mem (f := (·.1)) hentry)
  · obtain ⟨result, hentry, -, -⟩ := Comparison.exists_of_mem_deltas h
    exact .inr (.inr (List.mem_map_of_mem (f := (·.1)) hentry))

theorem hasResult_of_mem_findings {e : String × LintResult}
    (h : e ∈ Comparison.findings s.added) : HasResult s e.1 :=
  .inr (.inl (List.mem_map_of_mem (List.mem_filter.mp h).1))

end Gate

/-! ## What is confined -/

namespace Snapshots

variable {files : StagedFiles} {s : Snapshots}

theorem not_hasResult_without {paths : List String} {path : String} (h : path ∈ paths) :
    ¬Gate.HasResult (s.without files paths) path := by
  have hout : ∀ m : Results, path ∉ (m.keep fun p => !paths.contains p).paths := by
    intro m hmem
    rw [Results.paths_keep, List.mem_filter, Bool.not_eq_true'] at hmem
    exact absurd (List.contains_iff_mem.mpr h) (Bool.eq_false_iff.mp hmem.2)
  rintro (hmem | hmem | hmem)
  exacts [hout _ hmem, hout _ hmem, hout _ hmem]

/-- **What a crash takes out, and what it leaves.** A file that no linter crashed on keeps its results
on the committed side and those before the commit under its own name. The result under an old name
stays exactly if there is none, or if no file that failed has that name for its own before the commit.
A file that failed has no result on the committed side any more, and nothing is said of it. -/
theorem exclusion_confined {σ : Type} {vcs : VersionControl σ} {linter : Linter σ}
    {mode : Option String} {verbose : Bool} {session session' : Session σ}
    (htake : Snapshot.take vcs linter mode files verbose session = (.ok s, session'))
    (matcher : Matcher) :
    (∀ path, path ∉ s.failed →
      (s.excludeFailures files).current.get? path = s.current.get? path ∧
      (s.excludeFailures files).added.get? path = s.added.get? path ∧
      (s.excludeFailures files).currentRenamed.get? path = s.currentRenamed.get? path ∧
      (s.excludeFailures files).baseline.get? path = s.baseline.get? path) ∧
    (∀ oldName, (s.excludeFailures files).baselineRenamed.get? oldName
        = s.baselineRenamed.get? oldName ↔
      s.baselineRenamed.get? oldName = none ∨
        ∀ path ∈ s.failed, files.baselineName path ≠ oldName) ∧
    (∀ path ∈ s.failed,
      ¬Gate.HasResult (s.excludeFailures files) path ∧
      (∀ v, (path, v) ∉ (Gate.judge matcher files (s.excludeFailures files)).verdicts) ∧
      (∀ d ∈ Gate.allDeltas files (s.excludeFailures files), d.path ≠ path) ∧
      ∀ e ∈ Comparison.findings (s.excludeFailures files).added, e.1 ≠ path) := by
  rw [excludeFailures_eq (Snapshot.take_distinct htake)]
  refine ⟨fun path hpath => ?_, fun oldName => ?_, fun path hpath => ?_⟩
  · have hkept : (!s.failed.contains path) = true := by
      rw [Bool.not_eq_true', Bool.eq_false_iff]
      exact fun h => hpath (List.contains_iff_mem.mp h)
    refine ⟨?_, ?_, ?_, ?_⟩ <;> exact (Results.get?_keep _ _ _).trans (if_pos hkept)
  · have hkept : (!(s.failed.map files.baselineName).contains oldName) = true ↔
        ∀ path ∈ s.failed, files.baselineName path ≠ oldName := by
      rw [Bool.not_eq_true', Bool.eq_false_iff, ne_eq, List.contains_iff_mem, List.mem_map]
      push Not
      rfl
    rw [← hkept]
    refine (iff_of_eq (congrArg (· = _) (Results.get?_keep _ _ _))).trans ?_
    split
    next h => exact iff_of_true rfl (.inr h)
    next h => exact ⟨fun hnone => .inl hnone.symm, fun hor => (hor.resolve_right h).symm⟩
  · have hgone : ¬Gate.HasResult (s.without files s.failed) path := not_hasResult_without hpath
    refine ⟨hgone, fun v hv => hgone (Gate.hasResult_of_verdict hv), fun d hd heq => ?_,
      fun e he heq => ?_⟩
    · exact hgone (heq ▸ Gate.hasResult_of_mem_allDeltas hd)
    · exact hgone (heq ▸ Gate.hasResult_of_mem_findings he)

end Snapshots

/-! ## An old name that is shared -/

namespace Snapshots

/-- A rename of `a.js` to `b.js` beside a modified `a.js`. On the committed side a linter crashes on
`a.js`; it says the same of `b.js` as it said of the old file. -/
def sharedPlan : Rehearsal.Plan :=
  { staged := [(.modified, "a.js")]
    renames := [⟨"a.js", "b.js"⟩]
    replies := [(.staged, [("a.js", .crash "boom"), ("b.js", .answer ⟨"b|E|y\n", true⟩)]),
      (.baseline, [("a.js", .answer ⟨"b|E|y\n", true⟩)])] }

def sharedFiles : StagedFiles := { modifiedOrCopied := ["a.js"], renames := [⟨"a.js", "b.js"⟩] }

/-- What is taken of both sides. -/
def sharedSnapshots : Snapshots :=
  { currentRenamed := ⟨[("b.js", ⟨"b|E|y\n", true⟩)]⟩
    baseline := ⟨[("a.js", ⟨"b|E|y\n", true⟩)]⟩
    baselineRenamed := ⟨[("a.js", ⟨"b|E|y\n", true⟩)]⟩
    failures := [⟨"a.js", .lintCurrent, .crash "fake" "a.js" "boom"⟩] }

def sharedSession : Session Rehearsal.Stage :=
  (StagedFiles.classify Rehearsal.versionControl { world := { plan := sharedPlan } }).2

theorem take_sharedPlan :
    (Snapshot.take Rehearsal.versionControl (Rehearsal.linter sharedPlan) none sharedFiles false
      sharedSession).1 = .ok sharedSnapshots := by
  decide +kernel

/-- The file that failed is out, and the result of the other one on the committed side is left. -/
theorem exclusion_confined_shared :
    (Snapshot.take Rehearsal.versionControl (Rehearsal.linter sharedPlan) none sharedFiles false
      sharedSession).1 = .ok sharedSnapshots ∧
    "b.js" ∉ sharedSnapshots.failed ∧
    (sharedSnapshots.excludeFailures sharedFiles).currentRenamed.get? "b.js"
      = sharedSnapshots.currentRenamed.get? "b.js" ∧
    "a.js" ∈ sharedSnapshots.failed ∧
    ¬Gate.HasResult (sharedSnapshots.excludeFailures sharedFiles) "a.js" := by
  obtain ⟨hkept, -, hout⟩ := exclusion_confined (Prod.ext take_sharedPlan rfl) Matcher.records
  exact ⟨take_sharedPlan, by decide, (hkept "b.js" (by decide)).2.2.1, by decide,
    (hout "a.js" (by decide)).1⟩

/-- **A file judged by another one's crash.** No linter crashed on `b.js`, and it says the same of it as
it said before the commit. But `a.js` failed, its name is the old name of `b.js`, and what was said
under that name is taken out: `b.js` is compared with nothing, and has regressed. -/
theorem shared_name_judged :
    (StagedFiles.classify Rehearsal.versionControl { world := { plan := sharedPlan } }).1
      = .ok sharedFiles ∧
    (Snapshot.take Rehearsal.versionControl (Rehearsal.linter sharedPlan) none sharedFiles false
      sharedSession).1 = .ok sharedSnapshots ∧
    "b.js" ∉ sharedSnapshots.failed ∧
    sharedSnapshots.baselineRenamed.get? "a.js" = some ⟨"b|E|y\n", true⟩ ∧
    (sharedSnapshots.excludeFailures sharedFiles).baselineRenamed.get? "a.js" = none ∧
    ("b.js", Verdict.clean) ∈ (Gate.judge Matcher.records sharedFiles sharedSnapshots).verdicts ∧
    ("b.js", Verdict.regressed) ∈ (Gate.judge Matcher.records sharedFiles
      (sharedSnapshots.excludeFailures sharedFiles)).verdicts :=
  ⟨by decide +kernel, take_sharedPlan, by decide, by decide, by decide, by decide +kernel,
    by decide +kernel⟩

end Snapshots

end LintGate
