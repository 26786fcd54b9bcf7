/-
The linters of a configuration.

A registry is a configuration whose linters are all known and have commands that can
be run. Files are assigned to languages by their extension alone.
-/
import LintGate.Config.Basic
import LintGate.Files.Path
import LintGate.Lint
import LintGate.Text.Substitution
import LintGate.Text.Words

set_option autoImplicit false

namespace LintGate

/-- The languages and linters of a configuration, resolved. -/
structure Registry where
  languages : List (String × Language)
  linters : List (String × LinterSpec)
  timeout : Nat
deriving Repr

namespace Registry

/-! ## Building -/

/-- The error of a linter that is neither defined nor known. -/
def unknownLinter (name : String) : LintError :=
  .config ("unknown linter in configuration: \"" ++ name ++ "\"")

/-- The error of a linter whose command cannot be run. -/
def invalidCommand (name command : String) : LintError :=
  .config ("invalid command for linter \"" ++ name ++ "\": " ++ command)

/-- Whether a command line has at least one word. -/
def isRunnable (command : String) : Bool :=
  match Text.words? command with
  | some (_ :: _) => true
  | _ => false

/-- Finds the linter of a name. -/
def resolve (config : Config) (name : String) : Except LintError LinterSpec :=
  match config.linter? name with
  | none => .error (unknownLinter name)
  | some spec => if isRunnable spec.command then .ok spec else .error (invalidCommand name spec.command)

/-- Finds the linters of names, up to the first that cannot be found. -/
def resolveAll (config : Config) : List String → Except LintError (List (String × LinterSpec))
  | [] => .ok []
  | name :: rest => do
    let spec ← resolve config name
    return (name, spec) :: (← resolveAll config rest)

/-- Resolves the linters that a configuration enables. -/
def ofConfig (config : Config) : Except LintError Registry := do
  let linters ← resolveAll config config.enabledLinters
  return ⟨config.languages, linters, config.timeout⟩

/-! ## Languages -/

/-- Whether a language is one that a mode admits. Without a mode every language is. -/
def admits (mode : Option String) (name : String) : Bool :=
  match mode with
  | some m => name == m
  | none => true

/-- The languages that claim a path's extension and that the mode admits. -/
def languagesFor (r : Registry) (path : String) (mode : Option String) : List (String × Language) :=
  match Path.extension? path with
  | none => []
  | some ending =>
    r.languages.filter fun (name, language) => language.extensions.contains ending && admits mode name

/-- Whether some language is responsible for a path. -/
def handles (r : Registry) (path : String) (mode : Option String) : Bool :=
  !(r.languagesFor path mode).isEmpty

/-! ## Commands -/

/-- A word of a command with the path and the reporter's place put in. -/
def fill (path : String) (reporter : Option String) (word : String) : String :=
  let word := Text.substitute "\x7bpath\x7d" path word
  match reporter with
  | some place => Text.substitute "\x7breporter\x7d" place word
  | none => word

/-- The words with which a linter is run on a path. -/
def argv (spec : LinterSpec) (path : String) (reporter : Option String) : Except LintError (List String) :=
  match Text.words? spec.command with
  | some ws => .ok (ws.map (fill path reporter))
  | none => .error (.config ("invalid command: " ++ spec.command))

/-- The program of a linter. -/
def program? (spec : LinterSpec) : Option String := (Text.words? spec.command).bind (·.head?)

end Registry

end LintGate
