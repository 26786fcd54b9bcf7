/-
One invocation of the program.

The command line has been read. The repository is opened, the configuration found and
its linters resolved; then either the configuration is told, or the gate runs under its
lock. An error that is not the gate's own ends the invocation with a line on it.
-/
import LintGate.CommandLine
import LintGate.Config.File
import LintGate.Lock
import LintGate.Registry.Missing
import LintGate.Registry.Run
import LintGate.Repository
import LintGate.Summary

set_option autoImplicit false

namespace LintGate

/-- The world around an invocation. -/
structure Surroundings (σ : Type) where
  /-- The directory in which it is made. -/
  cwd : String
  user : UserPlaces
  /-- The files that can be seen. -/
  disk : σ → Folder
  /-- Whether a program can be found under a name. -/
  isFound : σ → String → Bool
  /-- Opens the repository that the directory belongs to. -/
  openRepository : σ → Except VcsError (Repository σ)
  /-- The world of linters that run in a directory. -/
  host : String → Host σ
  /-- The directory at a path. -/
  place : String → Place σ
  /-- The number of the process. -/
  self : Nat
  /-- Whether a process of a number is running. -/
  alive : Nat → Bool
  /-- The time that is written into the log. -/
  time : String

namespace Invocation

/-! ## Errors -/

/-- Looks for the repository's tool. -/
def findTool (found : String → Bool) : Except VcsError Unit :=
  if found "git" then .ok ()
  else .error ⟨"locate git", "git not found on PATH: cannot find binary path"⟩

/-- The text of an error of the pattern of defects. -/
def patternError (pattern : String) : String :=
  "invalid defect_pattern: " ++ pattern ++ ": regex parse error: the pattern is malformed"

/-- The matcher that a configuration asks for. -/
def matcherOf (config : Config) : Except String Matcher :=
  match config.defectPattern with
  | none => .ok Matcher.records
  | some pattern => (Matcher.ofPattern pattern).mapError fun _ => patternError pattern

/-! ## Preparation -/

/-- What is settled before the gate runs. -/
structure Preparation (σ : Type) where
  repository : Repository σ
  config : Config
  registry : Registry
  matcher : Matcher

variable {σ : Type} (world : Surroundings σ) (line : CommandLine)

/-- Prepares an invocation. -/
def prepare (s : σ) : Except String (Preparation σ) := do
  (findTool (world.isFound s)).mapError VcsError.text
  let repository ← (world.openRepository s).mapError VcsError.text
  let config ← (Config.load (world.disk s) world.cwd world.user line.config repository.root).mapError
    ConfigError.text
  let registry ← (Registry.ofConfig config).mapError LintError.text
  let matcher ← matcherOf config
  return ⟨repository, config, registry, matcher⟩

/-! ## The gate -/

variable (p : Preparation σ)

/-- The log of the run. -/
def logSpot : Spot σ :=
  ⟨world.place p.repository.root, "lintdiff.log", Path.join p.repository.root "lintdiff.log"⟩

/-- The lock of the run. -/
def lockSpot : Spot σ :=
  ⟨p.repository.place, "difflint.lock", Path.join p.repository.directory "difflint.lock"⟩

/-- Tells messages. -/
def tell (messages : List Console.Message) : Act σ Unit := messages.forM Act.say

/-- Tells what came of a run. -/
def conclude : Except RunError Outcome → Act σ (Except String Nat)
  | .ok outcome => do
    tell (outcome.summary (logSpot world p).path)
    return .ok (outcome.exitCode line.reject)
  | .error (.desync d) => do
    Act.say (.alarm Isolation.alarmTitle d.text)
    return .ok desyncExitCode
  | .error e => return .error e.text

/-- Makes sure that the linters are there, and runs the gate. -/
def runGate : Act σ (Except String Nat) := do
  let vcs := p.repository.versionControl
  match ← StagedFiles.classify vcs with
  | .error e => return .error (RunError.classification e).text
  | .ok files =>
    match p.registry.missingFor (world.isFound (← get).world) files.lintPaths line.mode with
    | [] =>
      let options : Gate.Options := ⟨line.mode, line.verbose⟩
      conclude world line p (← Gate.run vcs (Registry.linter (world.host p.repository.root) p.registry)
        p.matcher options (logSpot world p) world.time)
    | missing =>
      tell (missing.map (·.message))
      return .error (RunError.environment "required linters are not installed").text

/-- Runs the gate under its lock. -/
def runLocked : Act σ (Except String Nat) := do
  match ← Lock.acquire p.repository.versionControl world.alive world.self (lockSpot p) with
  | .error e => return .error e.text
  | .ok () =>
    let answer ← runGate world line p
    Lock.release (lockSpot p)
    return answer

/-- Does what the command line asks for. -/
def carryOut : Act σ (Except String Nat) := do
  let s := (← get).world
  match prepare world line s with
  | .error e => return .error e
  | .ok p =>
    if line.check then
      let (told, code) := p.registry.check (world.isFound s) p.config
      tell told
      return .ok code
    else runLocked world line p

/-- The whole invocation, and its exit code. -/
def run : Act σ Nat := do
  match ← carryOut world line with
  | .ok code => return code
  | .error message =>
    Act.line .error message
    return 1

end Invocation

end LintGate
