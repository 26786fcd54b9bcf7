/-
Comparing what linters say before and after.

A file whose output changed contributes the difference of the two outputs to the
report; a file that is new contributes its output if a linter signalled findings.
A file without a baseline is compared with nothing at all.
-/
import LintGate.Diff.Unified
import LintGate.Change
import LintGate.Lint
import LintGate.Report

set_option autoImplicit false

namespace LintGate

/-- The difference of one file's outputs. -/
structure FileDelta where
  path : String
  delta : String
deriving DecidableEq, Repr

namespace Comparison

/-- The old name of a file. Of several renames to one name the last counts. -/
def oldName (renames : List Rename) (path : String) : String :=
  match renames.reverse.find? fun r => r.newPath == path with
  | some r => r.oldPath
  | none => path

/-- The difference of a file's outputs, unless they are the same. -/
def delta? (baseline : Results) (renames : List Rename) (path : String) (result : LintResult) :
    Option FileDelta :=
  let old := oldName renames path
  let before := ((baseline.get? old).map (·.text)).getD ""
  if before = result.text then none
  else some ⟨path, Diff.unifiedDelta before result.text old path⟩

/-- The differences of all files whose output changed, in order. -/
def deltas (baseline current : Results) (renames : List Rename) : List FileDelta :=
  current.entries.filterMap fun (path, result) => delta? baseline renames path result

/-- The new files that have findings, in order. -/
def findings (added : Results) : List (String × LintResult) := added.entries.filter (·.2.warned)

/-- Reports differences. -/
def reportDeltas (ds : List FileDelta) (r : Report) : Report := ds.foldl (fun r d => r.push d.delta) r

/-- Reports new files that have findings. -/
def reportFindings (fs : List (String × LintResult)) (r : Report) : Report :=
  fs.foldl (fun r (path, result) => (r.push (path ++ "\n" ++ result.text)).flag) r

/-! ## One walk

A run gathers the differences first, because the verdicts need them too, and reports them afterwards.
The walks below do both at once, file by file. -/

/-- Reports a difference, unless it shows nothing. -/
def emit (path delta : String) : StateM Report (Option FileDelta) := do
  if delta.isEmpty then return none
  modify fun r => r.push delta
  return some ⟨path, delta⟩

/-- Compares one file with what it replaces, and reports the difference. A result that is the same as
the one before is passed over. -/
def compareFile (baseline : Results) (renames : List Rename) (path : String) (result : LintResult) :
    StateM Report (Option FileDelta) :=
  let old := oldName renames path
  match baseline.get? old with
  | some previous =>
    if previous.same result then return none
    else emit path (Diff.unifiedDelta previous.text result.text old path)
  | none => emit path (Diff.unifiedDelta "" result.text old path)

/-- Compares files in order. Answers the differences that were reported. -/
def compareFiles (baseline : Results) (renames : List Rename) :
    List (String × LintResult) → StateM Report (List FileDelta)
  | [] => return []
  | (path, result) :: rest => do
    let delta ← compareFile baseline renames path result
    return delta.toList ++ (← compareFiles baseline renames rest)

/-- Reports the new files that have findings, in order. Answers their paths. -/
def reportFiles : List (String × LintResult) → StateM Report (List String)
  | [] => return []
  | (path, result) :: rest => do
    if !result.warned then reportFiles rest
    else
      modify fun r => (r.push (path ++ "\n" ++ result.text)).flag
      return path :: (← reportFiles rest)

end Comparison

end LintGate
