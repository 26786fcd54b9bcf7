/-
Running the linters of a registry.

The world in which linters run is a host: it starts programs in the root of the
working tree and tells how they end, knows which files there are, and keeps the
reporter scripts. A program that cannot be found would fail on every file, so it
ends the linting; any other failure is the file's own.
-/
import LintGate.Registry.Basic
import LintGate.Text.Blank
import LintGate.Text.Bytes

set_option autoImplicit false

namespace LintGate

/-- How the run of a program ends. -/
inductive Ending where
  /-- There is no such program. -/
  | notFound
  /-- It cannot be started. -/
  | notStarted (reason : String)
  /-- It took too long and was killed. -/
  | timedOut
  /-- It cannot be waited for. -/
  | notAwaited (reason : String)
  /-- It ended, but what it wrote cannot be read. -/
  | unread (reason : String)
  /-- It ended by itself, with an exit code and what it wrote to both streams. -/
  | exited (code : Int) (out err : Bytes)
  /-- It was killed by a signal. -/
  | killed (err : Bytes)
deriving DecidableEq, Repr

/-- The world in which linters run. -/
structure Host (σ : Type) where
  /-- Runs a program with arguments, for so many seconds at most. -/
  run : String → List String → Nat → StateM σ Ending
  /-- Whether a path below the root leads to a file. -/
  isFile : String → σ → Bool
  /-- The directory of the reporter scripts, which are written out at first use, or why there is none. -/
  reporterDirectory : StateM σ (Except String String)

namespace Registry

variable {σ : Type} (host : Host σ) (r : Registry)

/-- The text of output. -/
def shownOutput (b : Bytes) : String := Bytes.lossyText b

/-- What the end of a linter's run on a path means. -/
def judge (name program path : String) (spec : LinterSpec) (timeout : Nat) :
    Ending → Except LintError LintResult
  | .notFound =>
    .error (.config ("linter \"" ++ name ++ "\" needs \x60" ++ program ++ "\x60, which is not on PATH"))
  | .notStarted reason => .error (.crash name path ("failed to run " ++ program ++ ": " ++ reason))
  | .timedOut => .error (.crash name path s!"timed out after {timeout}s")
  | .notAwaited reason => .error (.crash name path ("failed to wait for " ++ program ++ ": " ++ reason))
  | .unread reason => .error (.crash name path ("failed to read output: " ++ reason))
  | .exited code out err =>
    if code = 0 then .ok ⟨shownOutput out, false⟩
    else if spec.findingExitCodes.contains code then .ok ⟨shownOutput out, true⟩
    else .error (.crash name path (s!"exited with status {code}: " ++ Text.trim (shownOutput err)))
  | .killed err =>
    .error (.crash name path ("terminated by signal: " ++ Text.trim (shownOutput err)))

/-- Where the reporter script of a linter lies, if it uses one. -/
def reporterPlace (spec : LinterSpec) : StateM σ (Except LintError (Option String)) := do
  match spec.reporter with
  | none => return .ok none
  | some reporter =>
    match ← host.reporterDirectory with
    | .ok dir => return .ok (some (Path.join dir reporter.fileName))
    | .error message => return .error (.config message)

/-- Runs one linter on a path. -/
def runLinter (name : String) (spec : LinterSpec) (path : String) :
    StateM σ (Except LintError LintResult) := do
  match ← reporterPlace host spec with
  | .error e => return .error e
  | .ok reporter =>
    match argv spec path reporter with
    | .error e => return .error e
    | .ok [] => return .error (.config ("empty command for linter \"" ++ name ++ "\""))
    | .ok (program :: args) =>
      return judge name program path spec r.timeout (← host.run program args r.timeout)

/-- Runs linters on a path in order, up to the first that fails. -/
def runLinters (path : String) : List String → LintResult → StateM σ (Except LintError LintResult)
  | [], result => return .ok result
  | name :: rest, result => do
    match r.linters.lookup name with
    | none => return .error (unknownLinter name)
    | some spec =>
      match ← runLinter host r name spec path with
      | .error e => return .error e
      | .ok found => runLinters path rest (result.merge found)

/-- The linters responsible for a path, in order. -/
def lintersFor (path : String) (mode : Option String) : List String :=
  (r.languagesFor path mode).flatMap fun l => l.2.linters

/-- Lints a path. Nothing is said of a file that is not there or that no language claims. -/
def lint (path : String) (mode : Option String) : StateM σ (Except LintError (Option LintResult)) := do
  if !r.handles path mode || !host.isFile path (← get) then return .ok none
  else return (← runLinters host r path (r.lintersFor path mode) {}).map some

/-- A registry as the gate's linter. -/
def linter : Linter σ := ⟨lint host r, r.handles⟩

end Registry

end LintGate
