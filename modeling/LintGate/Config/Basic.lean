/-
The configuration of the gate.

A configuration maps languages to file extensions and linters. A linter is a command
line with places for the path and for a reporter script; the gate knows some linters
by itself, and a definition of the user goes before one of the gate's own. Languages
and linters are kept in the order of their names.
-/

set_option autoImplicit false

namespace LintGate

/-- A language: the extensions that it claims and the linters for its files. -/
structure Language where
  extensions : List String
  linters : List String
deriving DecidableEq, Repr

/-- A reporter script for a linter. -/
inductive Reporter where
  | eslint
  | jshint
deriving DecidableEq, Repr

/-- The name of the file that holds a reporter script. -/
def Reporter.fileName : Reporter → String
  | eslint => "eslint_terse_reporter.js"
  | jshint => "jshint_terse_reporter.js"

/-- How a linter is run. -/
structure LinterSpec where
  /-- The command line, with `{path}` and `{reporter}` as places. -/
  command : String
  /-- The exit codes that signal findings. -/
  findingExitCodes : List Int := [1]
  reporter : Option Reporter := none
deriving DecidableEq, Repr

/-! ## Entries in the order of their names -/

/-- Puts a value under a name. A value that was there gives way. -/
def insertNamed {α : Type} (name : String) (value : α) : List (String × α) → List (String × α)
  | [] => [(name, value)]
  | (n, v) :: rest =>
    if n = name then (name, value) :: rest
    else if name < n then (name, value) :: (n, v) :: rest
    else (n, v) :: insertNamed name value rest

/-- A configuration. -/
structure Config where
  languages : List (String × Language) := []
  linters : List (String × LinterSpec) := []
  /-- How long a linter may take, in seconds. -/
  timeout : Nat := 60
  /-- The pattern of newly introduced defects, in place of the default. -/
  defectPattern : Option String := none
  /-- The file it was read from. -/
  source : Option String := none
deriving DecidableEq, Repr

/-- The command line of the linters that report in records. -/
def recordsCommand (program : String) : String :=
  program ++ " '--format=%(path)s|%(code)s|%(text)s' \x7bpath\x7d"

/-- The linters that the gate knows by itself. -/
def builtinLinter? (name : String) : Option LinterSpec :=
  match name with
  | "eslint" => some ⟨"eslint --format \x7breporter\x7d \x7bpath\x7d", [1], some .eslint⟩
  | "jshint" => some ⟨"jshint --reporter \x7breporter\x7d \x7bpath\x7d", [1, 2], some .jshint⟩
  | "pycodestyle" => some ⟨recordsCommand "pycodestyle", [1], none⟩
  | "flake8" => some ⟨recordsCommand "flake8", [1], none⟩
  | _ => none

namespace Config

/-- The configuration in force without a file. -/
def standard : Config where
  languages := [("javascript", ⟨["js"], ["eslint"]⟩), ("python", ⟨["py", "pyw"], ["flake8"]⟩)]

/-- The linter of a name. -/
def linter? (c : Config) (name : String) : Option LinterSpec :=
  match c.linters.lookup name with
  | some spec => some spec
  | none => builtinLinter? name

/-- The names without those that came before. -/
def firsts (names : List String) : List String :=
  names.foldl (fun seen n => if seen.contains n then seen else seen ++ [n]) []

/-- The linters that some language names, each once. -/
def enabledLinters (c : Config) : List String := firsts (c.languages.flatMap fun l => l.2.linters)

end Config

end LintGate
