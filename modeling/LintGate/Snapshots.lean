/-
Lint results from both sides of a commit.

The committed side is linted with the unstaged changes set aside, the baseline with
the staged ones set aside too. A linter that crashes on a file costs that file its
comparison and nothing else; any other failure ends the linting. Whatever happened,
the workspace is brought back before the answer is given, and a failure to do so
goes before every other failure.
-/
import LintGate.Isolation
import LintGate.Staged

set_option autoImplicit false

namespace LintGate

/-- A file on which a linter crashed: its name in the commit, and where it happened. -/
structure LintFailure where
  path : String
  phase : Phase
  error : LintError
deriving DecidableEq, Repr

/-- Lint results from both sides. Baseline results of renamed files are under their old names. -/
structure Snapshots where
  current : Results := {}
  added : Results := {}
  currentRenamed : Results := {}
  baseline : Results := {}
  baselineRenamed : Results := {}
  failures : List LintFailure := []
deriving DecidableEq, Repr

namespace Snapshots

/-- Takes out every result of one file. -/
def exclude (s : Snapshots) (files : StagedFiles) (path : String) : Snapshots :=
  { s with
    current := s.current.erase path
    baseline := s.baseline.erase path
    added := s.added.erase path
    currentRenamed := s.currentRenamed.erase path
    baselineRenamed := s.baselineRenamed.erase (files.baselineName path) }

/-- Takes out every result of the files that failed on either side, so that no side is compared with
nothing. -/
def excludeFailures (s : Snapshots) (files : StagedFiles) : Snapshots :=
  s.failures.foldl (fun s failure => s.exclude files failure.path) s

end Snapshots

namespace Snapshot

variable {σ : Type} (vcs : VersionControl σ) (linter : Linter σ) (mode : Option String)

/-! ## Linting one list of files -/

/-- What linting a list of files leaves: the results, the files that failed, and the failure that
ended the linting, if one did. -/
structure Pass where
  results : Results
  failures : List LintFailure
  aborted : Option RunError

/-- Lints files in order. Each comes with the path to lint and its name in the commit. -/
def lintAll (phase : Phase) : List (String × String) → Results → List LintFailure → Act σ Pass
  | [], results, failures => return ⟨results, failures, none⟩
  | (path, name) :: rest, results, failures => do
    match ← linter.run path mode with
    | .ok (some result) => lintAll phase rest (results.insert path result) failures
    | .ok none => lintAll phase rest results failures
    | .error e =>
      if e.isPerFile then lintAll phase rest results (failures ++ [⟨name, phase, e⟩])
      else return ⟨results, failures, some (.linter e)⟩

/-- Paths that have the same name on both sides. -/
def same (paths : List String) : List (String × String) := paths.map fun p => (p, p)

/-- Lints every file of the commit, in the tree as it is. -/
def lintCurrent (files : StagedFiles) (s : Snapshots) : Act σ (Snapshots × Option RunError) := do
  let m ← lintAll linter mode .lintCurrent (same files.modifiedOrCopied) s.current s.failures
  let s := { s with current := m.results, failures := m.failures }
  if m.aborted.isSome then return (s, m.aborted)
  let a ← lintAll linter mode .lintCurrent (same files.added) s.added s.failures
  let s := { s with added := a.results, failures := a.failures }
  if a.aborted.isSome then return (s, a.aborted)
  let r ← lintAll linter mode .lintCurrent (same files.renamedTo) s.currentRenamed s.failures
  return ({ s with currentRenamed := r.results, failures := r.failures }, r.aborted)

/-- Lints what the commit replaces: modified and copied files, and renamed ones by their old names. -/
def lintBaseline (files : StagedFiles) (s : Snapshots) : Act σ (Snapshots × Option RunError) := do
  let m ← lintAll linter mode .lintBaseline (same files.modifiedOrCopied) s.baseline s.failures
  let s := { s with baseline := m.results, failures := m.failures }
  if m.aborted.isSome then return (s, m.aborted)
  let pairs := files.renames.map fun r => (r.oldPath, r.newPath)
  let r ← lintAll linter mode .lintBaseline pairs s.baselineRenamed s.failures
  return ({ s with baselineRenamed := r.results, failures := r.failures }, r.aborted)

/-! ## Both sides -/

/-- Lints both sides in isolation. The isolation that is answered has still to be ended. -/
def lintIsolated (files : StagedFiles) (i : Isolation) :
    Act σ (Except RunError Snapshots × Isolation) := do
  let (unstaged, i) ← Isolation.isolateUnstaged vcs i
  match unstaged with
  | .error e => return (.error e, i)
  | .ok () =>
    let (s, aborted) ← lintCurrent linter mode files {}
    match aborted with
    | some e => return (.error e, i)
    | none =>
      let (staged, i) ← Isolation.isolateStaged vcs i
      match staged with
      | .error e => return (.error e, i)
      | .ok () =>
        let (s, aborted) ← lintBaseline linter mode files s
        match aborted with
        | some e => return (.error e, i)
        | none => return (.ok s, i)

/-- The results of a run whose workspace is back or not: a failure to bring it back goes first, and
the failure that it hides is told on the console. -/
def settle (linted : Except RunError Snapshots) (restored : Except RunError Unit) :
    Act σ (Except RunError Snapshots) :=
  match restored with
  | .ok () => return linted
  | .error desync => do
    match linted with
    | .ok _ => return .error desync
    | .error e =>
      Act.line .error e.text
      return .error desync

/-- Lints both sides of the commit. The workspace is left alone when no file has a linter, and is
linted as it is when there is no commit to compare with. -/
def take (files : StagedFiles) (verbose : Bool) : Act σ (Except RunError Snapshots) := do
  if !(files.currentPaths.any fun p => linter.handles p mode) then return .ok {}
  else
    match ← vcs.askHasCommits with
    | .error e => return .error (.environment ("failed to read HEAD: " ++ e.text))
    | .ok false =>
      Act.line .warning "no commits yet: linting the working tree as-is"
      let (s, aborted) ← lintCurrent linter mode files {}
      match aborted with
      | some e => return .error e
      | none => return .ok s
    | .ok true =>
      match ← Isolation.capture vcs verbose with
      | .error e => return .error e
      | .ok i =>
        let (linted, i) ← lintIsolated vcs linter mode files i
        let restored ← Isolation.release vcs i
        settle linted restored

end Snapshot

end LintGate
