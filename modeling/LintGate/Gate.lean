/-
One run of the gate, from the staged changes to the log.

The staged files are told apart, linted before and after, and compared. Each file
that was linted on the committed side gets a verdict: a compared file by the
difference of its own outputs, a new one by its findings. The report is finished
after the workspace is back.
-/
import LintGate.Comparison
import LintGate.Snapshots

set_option autoImplicit false

namespace LintGate

/-- How a committed file compares with what it replaces. -/
inductive Verdict where
  | clean
  | improved
  | regressed
deriving DecidableEq, Repr

/-- What came of a run. -/
structure Outcome where
  /-- Whether the report was flagged. -/
  flagged : Bool
  /-- The verdicts of the linted files, in the order of the commit. -/
  verdicts : List (String × Verdict)
  /-- The files left out because a linter crashed on them. -/
  failures : List LintFailure
  /-- Whether the log was written. -/
  logWritten : Bool

namespace Gate

/-! ## Verdicts -/

/-- The verdict on a file by its difference, if it has one. -/
def verdictOfDelta (matcher : Matcher) : Option FileDelta → Verdict
  | none => .clean
  | some d => if detectsDefect d.delta matcher then .regressed else .improved

/-- The verdict on a compared file. -/
def comparedVerdict (matcher : Matcher) (ds : List FileDelta) (path : String) : Verdict :=
  verdictOfDelta matcher (ds.find? fun d => d.path == path)

/-- The verdict on a new file. -/
def addedVerdict (result : LintResult) : Verdict := if result.warned then .regressed else .clean

/-- What the comparison of both sides says: the report and the verdicts. -/
structure Judgement where
  report : Report
  verdicts : List (String × Verdict)

/-- Compares both sides. -/
def judge (matcher : Matcher) (files : StagedFiles) (s : Snapshots) : Judgement :=
  let compared := Comparison.deltas s.baseline s.current []
  let renamed := Comparison.deltas s.baselineRenamed s.currentRenamed files.renames
  let report := Comparison.reportDeltas renamed
    (Comparison.reportFindings (Comparison.findings s.added) (Comparison.reportDeltas compared {}))
  let verdict (path : String) : String × Verdict :=
    (path, comparedVerdict matcher (compared ++ renamed) path)
  { report := report.classify matcher
    verdicts := s.current.paths.map verdict
      ++ s.added.entries.map (fun e => (e.1, addedVerdict e.2))
      ++ s.currentRenamed.paths.map verdict }

/-! ## The run -/

/-- How a run is made. -/
structure Options where
  mode : Option String := none
  verbose : Bool := false

variable {σ : Type} (vcs : VersionControl σ) (linter : Linter σ) (matcher : Matcher)

/-- Ends a run with its report. -/
def conclude (log : Spot σ) (time : String) (j : Judgement) (failures : List LintFailure) :
    Act σ (Except RunError Outcome) := do
  match ← Act.quietly (j.report.finish time log) with
  | .error e => return .error (.io log.path e.text)
  | .ok written => return .ok ⟨j.report.flagged, j.verdicts, failures, written⟩

/-- Lints and compares the staged changes, and writes the log. -/
def run (options : Options) (log : Spot σ) (time : String) : Act σ (Except RunError Outcome) := do
  match ← StagedFiles.classify vcs with
  | .error e => return .error (.classification e)
  | .ok files =>
    match ← Snapshot.take vcs linter options.mode files options.verbose with
    | .error e => return .error e
    | .ok s =>
      let s := s.excludeFailures files
      conclude log time (judge matcher files s) s.failures

end Gate

end LintGate
