/-
The four things a run says agree.

A run answers verdicts and a flag, leaves a log or none, and its summary has an exit code.
The flag comes from one scan over the body of the report, with the new files setting it
outright; a verdict comes from one file's own difference. Both are brought to the same
form: some new file has findings, or a defect is found in some difference
(`judge_flagged_iff`, `judge_regressed_iff`). They differ in one case only, a matcher that
takes an empty line for a defect: every body has empty lines, and such a matcher flags
every run.

The log and the exit code follow the flag.
-/
import LintGate.Summary
import LintGate.Proofs.Gate.Introduced
import LintGate.Proofs.Report

set_option autoImplicit false

namespace LintGate

theorem Results.get?_of_mem {m : Results} {path : String} {result : LintResult}
    (hdistinct : m.paths.Nodup) (h : (path, result) ∈ m.entries) : m.get? path = some result := by
  obtain ⟨found, hfound⟩ := Option.isSome_iff_exists.mp
    (isSome_get?_iff.mpr (List.mem_map_of_mem (f := (·.1)) h))
  obtain ⟨before, after, hsplit, hbefore, hafter⟩ := entries_split hdistinct hfound
  rw [hsplit] at h
  rcases List.mem_append.mp h with h | h
  · exact absurd rfl (hbefore _ h)
  rcases List.mem_cons.mp h with h | h
  · rw [hfound, (Prod.mk.inj h).2]
  · exact absurd rfl (hafter _ h)

namespace Comparison

variable {baseline m : Results} {renames : List Rename}

/-- Each difference is that of an entry whose text is not the one before. -/
theorem exists_of_mem_deltas {d : FileDelta} (h : d ∈ deltas baseline m renames) :
    ∃ result, (d.path, result) ∈ m.entries ∧
      baseline.textOf (oldName renames d.path) ≠ result.text ∧
      d.delta = Diff.unifiedDelta (baseline.textOf (oldName renames d.path)) result.text
        (oldName renames d.path) d.path := by
  obtain ⟨⟨path, result⟩, hentry, hdelta⟩ := List.mem_filterMap.mp h
  obtain rfl := path_of_delta? (Option.mem_def.mpr hdelta)
  unfold delta? at hdelta
  simp only at hdelta
  split at hdelta
  · cases hdelta
  next hne => exact ⟨result, hentry, hne, by rw [← Option.some.inj hdelta]; rfl⟩

end Comparison

namespace Gate

variable {files : StagedFiles} {s : Snapshots} {matcher : Matcher}

/-! ## The flag and the verdicts in one form -/

/-- All differences of a comparison. -/
def allDeltas (files : StagedFiles) (s : Snapshots) : List FileDelta :=
  Comparison.deltas s.baseline s.current []
    ++ Comparison.deltas s.baselineRenamed s.currentRenamed files.renames

/-- What calls for the flag: a new file with findings, or a difference with a defect. -/
def FoundNew (matcher : Matcher) (files : StagedFiles) (s : Snapshots) : Prop :=
  (∃ e ∈ s.added.entries, e.2.warned = true) ∨
    ∃ d ∈ allDeltas files s, detectsDefect d.delta matcher = true

theorem findings_eq_nil_iff (added : Results) :
    Comparison.findings added = [] ↔ ¬∃ e ∈ added.entries, e.2.warned = true := by
  rw [Comparison.findings, List.filter_eq_nil_iff]
  push Not
  rfl

/-- **When a run is flagged.** -/
theorem judge_flagged_iff :
    (judge matcher files s).report.flagged = true ↔ matcher "" = true ∨ FoundNew matcher files s := by
  simp only [judge, Report.classify, Comparison.flagged_reportDeltas,
    Comparison.flagged_reportFindings, Bool.false_or]
  by_cases hfindings : Comparison.findings s.added = []
  · -- without findings the body is that of all the differences
    have hnone := (findings_eq_nil_iff s.added).mp hfindings
    have hbody : Comparison.reportDeltas
        (Comparison.deltas s.baselineRenamed s.currentRenamed files.renames)
        (Comparison.reportFindings [] (Comparison.reportDeltas
          (Comparison.deltas s.baseline s.current []) {}))
          = Comparison.reportDeltas (allDeltas files s) {} := by
      rw [allDeltas, Comparison.reportDeltas, Comparison.reportDeltas, Comparison.reportDeltas,
        List.foldl_append]
      rfl
    have hempty : detectsDefect ({} : Report).body matcher = matcher "" :=
      detectsDefect_empty matcher
    rw [hfindings, hbody, Comparison.detectsDefect_reportDeltas _ fun h => hempty.trans h, hempty]
    simp only [List.isEmpty_nil, Bool.not_true, Bool.false_or, Bool.or_eq_true, List.any_eq_true,
      FoundNew, hnone, false_or]
  · have hsome := not_not.mp (mt (findings_eq_nil_iff s.added).mpr hfindings)
    refine iff_of_true ?_ (.inr (.inl hsome))
    rw [← List.isEmpty_iff, Bool.not_eq_true] at hfindings
    rw [hfindings, Bool.not_false, Bool.true_or]

/-- Each difference with a defect is that of a compared file, and the file has regressed. -/
theorem regressed_of_mem_allDeltas (hover : s.Over files) {d : FileDelta}
    (hd : d ∈ allDeltas files s) (hdetected : detectsDefect d.delta matcher = true) :
    ∃ f, s.Compares files f ∧ f.verdict matcher = .regressed := by
  have hregressed : ∀ {f : ComparedFile}, f.before ≠ f.after → d.delta = f.delta →
      f.verdict matcher = .regressed := by
    intro f hne hdelta
    rw [ComparedFile.verdict_eq_regressed_iff hne, ComparedFile.rows, ← hdelta]
    exact List.any_eq_true.mp hdetected
  rcases List.mem_append.mp hd with hd | hd
  · obtain ⟨result, hentry, hne, hdelta⟩ := Comparison.exists_of_mem_deltas hd
    exact ⟨_, .sameName (Results.get?_of_mem hover.current.1 hentry), hregressed hne hdelta⟩
  · obtain ⟨result, hentry, hne, hdelta⟩ := Comparison.exists_of_mem_deltas hd
    exact ⟨_, .renamed (Results.get?_of_mem hover.currentRenamed.1 hentry), hregressed hne hdelta⟩

/-- A file that regressed by its difference has a difference with a defect. -/
theorem exists_delta_of_comparedVerdict {path : String}
    (h : comparedVerdict matcher (allDeltas files s) path = .regressed) :
    ∃ d ∈ allDeltas files s, detectsDefect d.delta matcher = true := by
  unfold comparedVerdict at h
  cases hfind : (allDeltas files s).find? fun d => d.path == path with
  | none =>
    rw [hfind] at h
    cases h
  | some d =>
    refine ⟨d, List.mem_of_find?_eq_some hfind, ?_⟩
    rw [hfind, verdictOfDelta] at h
    split at h
    · assumption
    · cases h

/-- **When some file has regressed.** -/
theorem judge_regressed_iff (hover : s.Over files) (hroles : files.Roles) :
    (∃ path, (path, Verdict.regressed) ∈ (judge matcher files s).verdicts) ↔
      FoundNew matcher files s := by
  constructor
  · rintro ⟨path, h⟩
    simp only [judge, List.mem_append, List.mem_map, Prod.mk.injEq] at h
    rcases h with (⟨_, -, rfl, h⟩ | ⟨e, he, -, hverdict⟩) | ⟨_, -, rfl, h⟩
    · exact .inr (exists_delta_of_comparedVerdict h)
    · refine .inl ⟨e, he, ?_⟩
      unfold addedVerdict at hverdict
      split at hverdict
      · assumption
      · cases hverdict
    · exact .inr (exists_delta_of_comparedVerdict h)
  · rintro (⟨e, he, hwarned⟩ | ⟨d, hd, hdetected⟩)
    · refine ⟨e.1, ?_⟩
      simp only [judge, List.mem_append, List.mem_map, Prod.mk.injEq]
      exact .inl (.inr ⟨e, he, rfl, if_pos hwarned⟩)
    · obtain ⟨f, hf, hverdict⟩ := regressed_of_mem_allDeltas hover hd hdetected
      exact ⟨f.path, (judge_verdicts_iff hover hroles hf .regressed).mpr hverdict.symm⟩

/-! ## The exit code -/

/-- Where the verdicts add nothing to the flag, the exit code is read off the flag and the files that
were left out. -/
theorem exitCode_iff {o : Outcome} (h : o.regressed = o.flagged) (reject : Bool) :
    (o.exitCode reject = 1 ↔ reject = true ∧ o.flagged = true) ∧
      (o.exitCode reject = 2 ↔ reject = true ∧ o.flagged = false ∧ o.failures ≠ []) ∧
      (o.exitCode reject = 0 ↔ reject = false ∨ (o.flagged = false ∧ o.failures = [])) := by
  rw [Outcome.exitCode, h]
  cases reject <;> cases o.flagged <;> cases o.failures <;> simp

/-! ## Runs -/

section Runs

variable {σ : Type} {vcs : VersionControl σ} {linter : Linter σ} {options : Options}
  {session session' : Session σ} {log : Spot σ} {time : String} {o : Outcome}

/-- A run with an outcome told the staged files apart, took both sides, and concluded. -/
theorem exists_of_run_ok
    (h : run vcs linter matcher options log time session = (.ok o, session')) :
    ∃ files session₁ snap session₂, StagedFiles.classify vcs session = (.ok files, session₁) ∧
      Snapshot.take vcs linter options.mode files options.verbose session₁ = (.ok snap, session₂) ∧
      conclude log time (judge matcher files (snap.excludeFailures files))
        (snap.excludeFailures files).failures session₂ = (.ok o, session') := by
  cases hclassify : StagedFiles.classify vcs session with
  | mk answer session₁ =>
  unfold run at h
  simp only [bind, StateT.bind, hclassify] at h
  cases answer with
  | error e => cases h
  | ok files =>
  cases htake : Snapshot.take vcs linter options.mode files options.verbose session₁ with
  | mk answer session₂ =>
  simp only [StateT.bind, htake] at h
  cases answer with
  | error e => cases h
  | ok snap => exact ⟨files, session₁, snap, session₂, rfl, htake, h⟩

/-- What a conclusion says is what was judged, and the report is finished in the world it leaves. -/
theorem conclude_finishes {j : Judgement} {failures : List LintFailure}
    (h : conclude log time j failures session = (.ok o, session')) :
    o.verdicts = j.verdicts ∧ o.flagged = j.report.flagged ∧
      j.report.finish time log session.world = (.ok o.logWritten, session'.world) := by
  unfold conclude at h
  simp only [bind, StateT.bind, Act.quietly] at h
  generalize j.report.finish time log session.world = finished at h
  obtain ⟨answer, w⟩ := finished
  cases answer with
  | error e => cases h
  | ok written =>
    cases h
    exact ⟨rfl, rfl, rfl⟩

/-- **Verdicts, flag, log and exit code agree.** In every run with an outcome, a file that regressed
flags the run, and a flagged run has such a file, unless the matcher takes an empty line for a defect.
The log was written, and exists afterwards, exactly if the run is flagged. The verdicts never decide
the exit code beside the flag: with `reject` it tells whether the run is flagged, and if not whether
files were left out; without, it is zero. -/
theorem outcome_agrees (hlog : log.place.Lawful)
    (hrun : run vcs linter matcher options log time session = (.ok o, session')) :
    ((∃ path, (path, Verdict.regressed) ∈ o.verdicts) → o.flagged = true) ∧
    (matcher "" = false → o.flagged = true → ∃ path, (path, Verdict.regressed) ∈ o.verdicts) ∧
    Matcher.records "" = false ∧
    o.logWritten = o.flagged ∧
    ((∃ content executable, log.look session'.world = some (.file content executable)) ↔
      o.flagged = true) ∧
    (log.look session'.world = none ↔ o.flagged = false) ∧
    o.regressed = o.flagged ∧
    ∀ reject, (o.exitCode reject = 1 ↔ reject = true ∧ o.flagged = true) ∧
      (o.exitCode reject = 2 ↔ reject = true ∧ o.flagged = false ∧ o.failures ≠ []) ∧
      (o.exitCode reject = 0 ↔ reject = false ∨ (o.flagged = false ∧ o.failures = [])) := by
  obtain ⟨files, session₁, snap, session₂, hclassify, htake, hconclude⟩ := exists_of_run_ok hrun
  obtain ⟨hverdicts, hflagged, hfinish⟩ := conclude_finishes hconclude
  have hroles : files.Roles := by
    obtain ⟨es, -, -, hroles⟩ := StagedFiles.does_classify vcs linter session
    exact hroles files (by rw [hclassify])
  have hregressed : (∃ path, (path, Verdict.regressed) ∈ o.verdicts) ↔
      FoundNew matcher files (snap.excludeFailures files) := by
    rw [hverdicts]
    exact judge_regressed_iff (Snapshot.take_over htake).excludeFailures hroles
  have hflag : o.flagged = true ↔
      matcher "" = true ∨ FoundNew matcher files (snap.excludeFailures files) := by
    rw [hflagged]
    exact judge_flagged_iff
  have hsecond : o.regressed = o.flagged := by
    refine Bool.or_eq_left_iff_imp.mpr fun h => ?_
    obtain ⟨⟨path, v⟩, hv, heq⟩ := List.any_eq_true.mp h
    obtain rfl := beq_iff_eq.mp heq
    exact hflag.mpr (.inr (hregressed.mp ⟨path, hv⟩))
  obtain ⟨hwritten, hlook⟩ := Report.finish_ok hlog hfinish
  rw [← hflagged] at hwritten hlook
  refine ⟨fun h => hflag.mpr (.inr (hregressed.mp h)), fun hblank h => ?_, by decide +kernel,
    hwritten, ?_, ?_, hsecond, exitCode_iff hsecond⟩
  · rcases hflag.mp h with h | h
    · rw [hblank] at h
      cases h
    · exact hregressed.mpr h
  · rw [hlook]
    cases o.flagged <;> simp
  · rw [hlook]
    cases o.flagged <;> simp

end Runs

/-! ## A rehearsed run -/

/-- The run over one modified file, in the default configuration. -/
def editRun (before after : String) : Except RunError Outcome × Session Rehearsal.Stage :=
  run Rehearsal.versionControl (Rehearsal.linter (editPlan before after)) Matcher.records {} editLog
    "now" (editSession before after)

/-- A file that got a defect: the log is written, and the gate refuses the commit. -/
theorem outcome_agrees_edited :
    Rehearsal.place.Lawful ∧ Matcher.records "" = false ∧
      ∃ o session', editRun "" "f|E1|x\n" = (.ok o, session') ∧ o.flagged = true ∧
        (∃ path, (path, Verdict.regressed) ∈ o.verdicts) ∧
        (∃ content executable, editLog.look session'.world = some (.file content executable)) ∧
        o.exitCode true = 1 := by
  have hanswer : (editRun "" "f|E1|x\n").1.toOption.map (·.flagged) = some true := by decide +kernel
  cases hrun : editRun "" "f|E1|x\n" with
  | mk answer session' =>
  rw [hrun] at hanswer
  cases answer with
  | error e => cases hanswer
  | ok o =>
    have hflagged : o.flagged = true := Option.some.inj hanswer
    obtain ⟨-, hregressed, hblank, -, hlog, -, -, hexit⟩ :=
      outcome_agrees Rehearsal.place_lawful hrun
    exact ⟨Rehearsal.place_lawful, hblank, o, session', rfl, hflagged, hregressed hblank hflagged,
      hlog.mpr hflagged, (hexit true).1.mpr ⟨rfl, hflagged⟩⟩

end Gate

end LintGate
