/-
What a run says of a compared file.

A run compares a file when it has results for it after the files that a linter crashed on
were taken out. Each path has one role in a commit, so the verdict on a compared file is
that of its own difference, and no other entry of the outcome is about it. Its difference
is a block of the report, behind a separator and in front of the next one, and so its
rows are rows of the report: a file that regressed flags the run.
-/
import LintGate.Gate
import LintGate.Proofs.Snapshot.Results
import LintGate.Proofs.Staged
import LintGate.Proofs.Text.Feeds

set_option autoImplicit false

namespace LintGate

/-! ## Roles -/

/-- No path has two roles. -/
structure StagedFiles.Roles (files : StagedFiles) : Prop where
  added : ∀ p ∈ files.added, p ∉ files.modifiedOrCopied ∧ p ∉ files.renamedTo
  renamed : ∀ p ∈ files.renamedTo, p ∉ files.modifiedOrCopied

namespace StagedFiles

theorem ofAnswers_roles (modifiedOrCopied added : List String) (renames : List Rename) :
    (ofAnswers modifiedOrCopied added renames).Roles := by
  refine ⟨fun p hp => ?_, fun p hp hmodified => ?_⟩
  · have happart := (List.mem_filter.mp hp).2
    rw [Bool.and_eq_true, Bool.not_eq_true', Bool.not_eq_true'] at happart
    refine ⟨fun hmodified => ?_, fun hrenamed => ?_⟩
    · exact absurd (List.contains_iff_mem.mpr hmodified) (Bool.eq_false_iff.mp happart.1)
    · obtain ⟨r, hr, rfl⟩ := List.mem_map.mp hrenamed
      refine absurd (List.any_eq_true.mpr ⟨r, hr, ?_⟩) (Bool.eq_false_iff.mp happart.2)
      exact beq_self_eq_true _
  · obtain ⟨r, hr, rfl⟩ := List.mem_map.mp hp
    have hnot := (List.mem_filter.mp hr).2
    rw [Bool.not_eq_true'] at hnot
    exact absurd (List.contains_iff_mem.mpr hmodified) (Bool.eq_false_iff.mp hnot)

open Act in
/-- However the staged files are told apart, no path has two roles. -/
theorem does_classify {σ : Type} (vcs : VersionControl σ) (linter : Linter σ) :
    Does vcs linter (classify vcs) fun _ r => ∀ files, r = .ok files → files.Roles := by
  refine (does_classify_asked vcs linter).mono fun es r hasked files hfiles => ?_
  rw [hfiles] at hasked
  cases hasked
  exact ofAnswers_roles _ _ _

end StagedFiles

/-! ## Blocks of a report -/

namespace Report

/-- A block stands in a report behind a line feed, and in front of one if anything follows. -/
def Shows (r : Report) (block : String) : Prop :=
  ∃ front back : List Char, r.body.toList = front ++ '\n' :: (block.toList ++ back) ∧
    (back = [] ∨ ∃ rest, back = '\n' :: rest)

theorem push_shows (r : Report) (block : String) : (r.push block).Shows block := by
  have hseparator : separator.toList = ['\n', '\n'] ++ ['\n'] := by decide
  refine ⟨r.body.toList ++ ['\n', '\n'], [], ?_, .inl rfl⟩
  simp only [push, String.toList_append, hseparator, List.append_assoc, List.singleton_append,
    List.append_nil]

theorem Shows.push {r : Report} {block : String} (h : r.Shows block) (other : String) :
    (r.push other).Shows block := by
  have hseparator : separator.toList = '\n' :: ['\n', '\n'] := by decide
  obtain ⟨front, back, hbody, hback⟩ := h
  refine ⟨front, back ++ separator.toList ++ other.toList, ?_, .inr ?_⟩
  · simp only [Report.push, String.toList_append, hbody, List.append_assoc, List.cons_append]
  · rcases hback with rfl | ⟨rest, rfl⟩
    · rw [hseparator]
      exact ⟨_, rfl⟩
    · exact ⟨_, rfl⟩

/-- What is found in a block is found in the report. -/
theorem Shows.detectsDefect {r : Report} {block : String} {matcher : Matcher} (h : r.Shows block)
    (hblock : detectsDefect block matcher = true) : detectsDefect r.body matcher = true := by
  obtain ⟨front, back, hbody, hback⟩ := h
  obtain ⟨row, hrow, hmatch⟩ := List.any_eq_true.mp hblock
  refine List.any_eq_true.mpr ⟨row, ?_, hmatch⟩
  obtain ⟨piece, hpiece, rfl⟩ := List.mem_map.mp hrow
  refine List.mem_map_of_mem ?_
  rw [hbody, Text.splitFeeds_feed]
  refine List.mem_append_right _ ?_
  rcases hback with rfl | ⟨rest, rfl⟩
  · rw [List.append_nil]
    exact hpiece
  · rw [Text.splitFeeds_feed]
    exact List.mem_append_left _ hpiece

end Report

namespace Comparison

theorem Shows.reportDeltas {r : Report} {block : String} (h : r.Shows block) (ds : List FileDelta) :
    (reportDeltas ds r).Shows block := by
  unfold Comparison.reportDeltas
  induction ds generalizing r with
  | nil => exact h
  | cons d ds ih => exact ih (h.push d.delta)

theorem Shows.reportFindings {r : Report} {block : String} (h : r.Shows block)
    (fs : List (String × LintResult)) : (reportFindings fs r).Shows block := by
  unfold Comparison.reportFindings
  induction fs generalizing r with
  | nil => exact h
  | cons f fs ih => exact ih (h.push _)

/-- Every difference that is reported is a block of the report. -/
theorem reportDeltas_shows {ds : List FileDelta} {d : FileDelta} (r : Report) (h : d ∈ ds) :
    (reportDeltas ds r).Shows d.delta := by
  obtain ⟨before, after, rfl⟩ := List.append_of_mem h
  unfold reportDeltas
  rw [List.foldl_append, List.foldl_cons]
  exact Shows.reportDeltas (Report.push_shows _ _) after

end Comparison

/-! ## Differences by path -/

namespace Comparison

variable {baseline m : Results} {renames : List Rename} {path : String} {result : LintResult}

theorem path_of_delta? {d : FileDelta} (h : d ∈ delta? baseline renames path result) :
    d.path = path := by
  unfold delta? at h
  simp only at h
  split at h
  · cases h
  · rw [← Option.mem_some_iff.mp h]

/-- Files of other paths have no difference under this one. -/
theorem find?_deltas_of_ne (entries : List (String × LintResult)) (h : ∀ e ∈ entries, e.1 ≠ path) :
    (entries.filterMap fun e => delta? baseline renames e.1 e.2).find? (fun d => d.path == path)
      = none := by
  refine List.find?_eq_none.mpr fun d hd => ?_
  obtain ⟨e, he, hdelta⟩ := List.mem_filterMap.mp hd
  rw [path_of_delta? hdelta, beq_iff_eq]
  exact h e he

/-- The difference found under a path is that of its own results. -/
theorem find?_deltas (hdistinct : m.paths.Nodup) (hget : m.get? path = some result) :
    (deltas baseline m renames).find? (fun d => d.path == path)
      = delta? baseline renames path result := by
  obtain ⟨before, after, hsplit, hbefore, hafter⟩ := Results.entries_split hdistinct hget
  have hdeltas : deltas baseline m renames
      = m.entries.filterMap fun e => delta? baseline renames e.1 e.2 := rfl
  rw [hdeltas, hsplit, List.filterMap_append, List.find?_append, find?_deltas_of_ne before hbefore,
    Option.none_or]
  cases hdelta : delta? baseline renames path result with
  | none =>
    rw [List.filterMap_cons_none (by exact hdelta)]
    exact find?_deltas_of_ne after hafter
  | some d =>
    have hpath : (d.path == path) = true := by
      rw [path_of_delta? (Option.mem_def.mpr hdelta)]
      exact beq_self_eq_true _
    rw [List.filterMap_cons_some (by exact hdelta)]
    exact List.find?_cons_of_pos (p := fun d : FileDelta => d.path == path) hpath

theorem find?_deltas_of_not_mem (h : path ∉ m.paths) :
    (deltas baseline m renames).find? (fun d => d.path == path) = none :=
  find?_deltas_of_ne m.entries fun _ he heq => h (heq ▸ List.mem_map_of_mem he)

end Comparison

/-! ## Compared files -/

/-- A file that is compared: its name, the name it had, and what was said of it before and after. -/
structure ComparedFile where
  path : String
  oldName : String
  before : String
  after : String
deriving DecidableEq, Repr

namespace ComparedFile

/-- The difference of a compared file. -/
def delta (f : ComparedFile) : String := Diff.unifiedDelta f.before f.after f.oldName f.path

/-- The rows of its difference, as the scan for defects reads them. -/
def rows (f : ComparedFile) : List String := Text.pieces f.delta

/-- The verdict on a compared file. -/
def verdict (matcher : Matcher) (f : ComparedFile) : Verdict :=
  if f.before = f.after then .clean
  else if f.rows.any matcher then .regressed else .improved

theorem verdict_eq_regressed_iff {matcher : Matcher} {f : ComparedFile} (h : f.before ≠ f.after) :
    f.verdict matcher = .regressed ↔ ∃ row ∈ f.rows, matcher row = true := by
  rw [verdict, if_neg h, ← List.any_eq_true]
  split
  · exact iff_of_true rfl ‹_›
  · exact iff_of_false (by decide) ‹_›

end ComparedFile

/-- What was said of a file in results, nothing if there are none. -/
def Results.textOf (m : Results) (path : String) : String := ((m.get? path).map (·.text)).getD ""

/-- The files that results are compared for. A file without a result before the commit is compared
with the empty text. -/
inductive Snapshots.Compares (s : Snapshots) (files : StagedFiles) : ComparedFile → Prop where
  | sameName {path : String} {result : LintResult} (h : s.current.get? path = some result) :
      Compares s files ⟨path, path, s.baseline.textOf path, result.text⟩
  | renamed {path : String} {result : LintResult} (h : s.currentRenamed.get? path = some result) :
      Compares s files ⟨path, Comparison.oldName files.renames path,
        s.baselineRenamed.textOf (Comparison.oldName files.renames path), result.text⟩

namespace Gate

variable {files : StagedFiles} {s : Snapshots} {matcher : Matcher} {f : ComparedFile}

/-- The verdict by a file's difference is the verdict on the file. -/
theorem verdictOfDelta_eq (matcher : Matcher) (baseline : Results) (renames : List Rename)
    (path : String) (result : LintResult) :
    verdictOfDelta matcher (Comparison.delta? baseline renames path result) =
      ComparedFile.verdict matcher ⟨path, Comparison.oldName renames path,
        baseline.textOf (Comparison.oldName renames path), result.text⟩ := by
  have hdelta : Comparison.delta? baseline renames path result =
      if baseline.textOf (Comparison.oldName renames path) = result.text then none
      else some ⟨path, Diff.unifiedDelta (baseline.textOf (Comparison.oldName renames path)) result.text
        (Comparison.oldName renames path) path⟩ := rfl
  by_cases hsame : baseline.textOf (Comparison.oldName renames path) = result.text
  · rw [hdelta, if_pos hsame]
    exact (if_pos hsame).symm
  · rw [hdelta, if_neg hsame]
    exact (if_neg hsame).symm

/-- The difference under a compared file's path is its own, in whichever list it stands. -/
theorem find?_compared (hover : s.Over files) (hroles : files.Roles) (hf : s.Compares files f) :
    ∃ baseline renames result, f = ⟨f.path, Comparison.oldName renames f.path,
        baseline.textOf (Comparison.oldName renames f.path), result.text⟩ ∧
      (Comparison.deltas s.baseline s.current []
          ++ Comparison.deltas s.baselineRenamed s.currentRenamed files.renames).find?
        (fun d => d.path == f.path) = Comparison.delta? baseline renames f.path result := by
  cases hf with
  | @sameName path result h =>
    -- a modified file is not renamed, and the second list has nothing of it
    have hnot : path ∉ s.currentRenamed.paths := fun hmem =>
      hroles.renamed path (hover.currentRenamed.2 path hmem)
        (hover.current.2 path (Results.isSome_get?_iff.mp (by rw [h]; rfl)))
    refine ⟨s.baseline, [], result, rfl, ?_⟩
    rw [List.find?_append, Comparison.find?_deltas_of_not_mem hnot, Option.or_none]
    exact Comparison.find?_deltas hover.current.1 h
  | @renamed path result h =>
    -- nor is a renamed file modified
    have hnot : path ∉ s.current.paths := fun hmem =>
      hroles.renamed path (hover.currentRenamed.2 path (Results.isSome_get?_iff.mp (by rw [h]; rfl)))
        (hover.current.2 path hmem)
    refine ⟨s.baselineRenamed, files.renames, result, rfl, ?_⟩
    rw [List.find?_append, Comparison.find?_deltas_of_not_mem hnot, Option.none_or]
    exact Comparison.find?_deltas hover.currentRenamed.1 h

/-- **The verdict on a compared file is that of its own difference**, and no other is given on it. -/
theorem judge_verdicts_iff (hover : s.Over files) (hroles : files.Roles) (hf : s.Compares files f)
    (v : Verdict) : (f.path, v) ∈ (judge matcher files s).verdicts ↔ v = f.verdict matcher := by
  obtain ⟨baseline, renames, result, hfile, hfind⟩ := find?_compared hover hroles hf
  have hverdict : comparedVerdict matcher (Comparison.deltas s.baseline s.current []
      ++ Comparison.deltas s.baselineRenamed s.currentRenamed files.renames) f.path
        = f.verdict matcher := by
    rw [comparedVerdict, hfind, verdictOfDelta_eq, ← hfile]
  have hrole : f.path ∈ s.current.paths ∨ f.path ∈ s.currentRenamed.paths := by
    cases hf with
    | sameName h => exact .inl (Results.isSome_get?_iff.mp (by rw [h]; rfl))
    | renamed h => exact .inr (Results.isSome_get?_iff.mp (by rw [h]; rfl))
  -- the file is no added one, so none of the entries of those is about it
  have hadded : f.path ∉ s.added.paths := fun hmem => by
    have hfresh := hroles.added f.path (hover.added.2 f.path hmem)
    rcases hrole with h | h
    · exact hfresh.1 (hover.current.2 f.path h)
    · exact hfresh.2 (hover.currentRenamed.2 f.path h)
  simp only [judge, List.mem_append, List.mem_map, Prod.mk.injEq]
  constructor
  · rintro ((⟨path, -, rfl, rfl⟩ | ⟨e, he, hpath, -⟩) | ⟨path, -, rfl, rfl⟩)
    · exact hverdict
    · exact absurd (hpath ▸ List.mem_map_of_mem he) hadded
    · exact hverdict
  · rintro rfl
    rcases hrole with h | h
    · exact .inl (.inl ⟨f.path, h, rfl, hverdict⟩)
    · exact .inr ⟨f.path, h, rfl, hverdict⟩

/-- **A file that regressed flags the report.** -/
theorem judge_flagged (hover : s.Over files) (hroles : files.Roles) (hf : s.Compares files f)
    (h : f.verdict matcher = .regressed) : (judge matcher files s).report.flagged = true := by
  obtain ⟨baseline, renames, result, hfile, hfind⟩ := find?_compared hover hroles hf
  have hverdict : verdictOfDelta matcher (Comparison.delta? baseline renames f.path result)
      = .regressed := by
    rw [verdictOfDelta_eq, ← hfile, h]
  cases hdelta : Comparison.delta? baseline renames f.path result with
  | none =>
    rw [hdelta] at hverdict
    cases hverdict
  | some d =>
    rw [hdelta] at hverdict hfind
    have hdetected : detectsDefect d.delta matcher = true := by
      rw [verdictOfDelta] at hverdict
      split at hverdict
      · assumption
      · cases hverdict
    -- the difference is reported, and what is reported after it leaves its block whole
    have hshown : (Comparison.reportDeltas
        (Comparison.deltas s.baselineRenamed s.currentRenamed files.renames)
        (Comparison.reportFindings (Comparison.findings s.added)
          (Comparison.reportDeltas (Comparison.deltas s.baseline s.current []) {}))).Shows d.delta := by
      rcases List.mem_append.mp (List.mem_of_find?_eq_some hfind) with hd | hd
      · exact Comparison.Shows.reportDeltas
          (Comparison.Shows.reportFindings (Comparison.reportDeltas_shows _ hd) _) _
      · exact Comparison.reportDeltas_shows _ hd
    exact Bool.or_eq_true_iff.mpr (.inr (hshown.detectsDefect hdetected))

/-! ## Runs -/

section Runs

variable {σ : Type} (vcs : VersionControl σ) (linter : Linter σ)

/-- The files that a run compares, in the session it starts in. -/
def Compares (options : Options) (session : Session σ) (f : ComparedFile) : Prop :=
  ∃ files session₁ snap session₂, StagedFiles.classify vcs session = (.ok files, session₁) ∧
    Snapshot.take vcs linter options.mode files options.verbose session₁ = (.ok snap, session₂) ∧
    (snap.excludeFailures files).Compares files f

variable {vcs linter} {options : Options} {session : Session σ} {log : Spot σ} {time : String}

section Unfailed

variable {session₁ session₂ : Session σ} {snap : Snapshots} {path : String} {result : LintResult}

/-- A file that no linter crashed on is compared by the results under its name. -/
theorem compares_sameName (hclassify : StagedFiles.classify vcs session = (.ok files, session₁))
    (htake : Snapshot.take vcs linter options.mode files options.verbose session₁
      = (.ok snap, session₂))
    (hunfailed : ∀ failure ∈ snap.failures, failure.path ≠ path)
    (hresult : snap.current.get? path = some result) :
    Compares vcs linter options session
      ⟨path, path, snap.baseline.textOf path, result.text⟩ := by
  obtain ⟨hcurrent, hbaseline⟩ := snap.get?_excludeFailures files hunfailed
  refine ⟨files, session₁, snap, session₂, hclassify, htake, ?_⟩
  unfold Results.textOf
  rw [← hbaseline]
  exact .sameName (hcurrent.trans hresult)

end Unfailed

/-- What a run says is what the comparison of its results says. -/
theorem conclude_ok {j : Judgement} {failures : List LintFailure} {o : Outcome}
    (h : (conclude log time j failures session).1 = .ok o) :
    o.verdicts = j.verdicts ∧ o.flagged = j.report.flagged := by
  unfold conclude at h
  simp only [bind, StateT.bind] at h
  generalize Act.quietly (j.report.finish time log) session = finished at h
  obtain ⟨answer, session'⟩ := finished
  cases answer with
  | error e => cases h
  | ok written =>
    rw [← Except.ok.inj h]
    exact ⟨rfl, rfl⟩

/-- A run that gets as far as the comparison goes on with its results. -/
theorem run_eq {files : StagedFiles} {session₁ session₂ : Session σ} {snap : Snapshots}
    (hclassify : StagedFiles.classify vcs session = (.ok files, session₁))
    (htake : Snapshot.take vcs linter options.mode files options.verbose session₁
      = (.ok snap, session₂)) :
    run vcs linter matcher options log time session =
      conclude log time (judge matcher files (snap.excludeFailures files))
        (snap.excludeFailures files).failures session₂ := by
  unfold run
  simp only [bind, StateT.bind, hclassify, htake]

/-- **The outcome of a run on a file that it compares**: the one verdict is that of the file's own
difference, and a file that regressed flags the run. -/
theorem run_compared {o : Outcome} (hf : Compares vcs linter options session f)
    (hrun : (run vcs linter matcher options log time session).1 = .ok o) :
    (∀ v, (f.path, v) ∈ o.verdicts ↔ v = f.verdict matcher) ∧
      (f.verdict matcher = .regressed → o.flagged = true) := by
  obtain ⟨files, session₁, snap, session₂, hclassify, htake, hf⟩ := hf
  rw [run_eq hclassify htake] at hrun
  obtain ⟨hverdicts, hflagged⟩ := conclude_ok hrun
  have hover := (Snapshot.take_over htake).excludeFailures
  have hroles : files.Roles := by
    obtain ⟨es, -, -, hroles⟩ := StagedFiles.does_classify vcs linter session
    exact hroles files (by rw [hclassify])
  rw [hverdicts, hflagged]
  exact ⟨judge_verdicts_iff hover hroles hf, judge_flagged hover hroles hf⟩

end Runs

end Gate

end LintGate
