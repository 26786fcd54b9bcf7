/-
Linters whose programs are missing.

What a commit needs is checked before the workspace is touched. Whether a program can
be found is a question to the host; it is asked here as a predicate on names.
-/
import LintGate.Console
import LintGate.Registry.Basic

set_option autoImplicit false

namespace LintGate

/-- A linter that a language names and whose program cannot be found. -/
structure MissingLinter where
  language : String
  linter : String
  program : String
deriving DecidableEq, Repr

/-- How a missing linter is told. -/
def MissingLinter.message (m : MissingLinter) : Console.Message :=
  .line .error (m.language ++ " linter \"" ++ m.linter ++ "\" needs \x60" ++ m.program
    ++ "\x60, which is not on PATH")

namespace Registry

variable (found : String → Bool) (r : Registry)

/-- A linter of a language, if its program is missing. -/
def missingLinter? (language linter : String) : Option MissingLinter :=
  match (r.linters.lookup linter).bind program? with
  | none => none
  | some program => if found program then none else some ⟨language, linter, program⟩

/-- The missing linters of languages. -/
def missingOf (languages : List (String × Language)) : List MissingLinter :=
  languages.flatMap fun (name, language) => language.linters.filterMap (missingLinter? found r name)

/-- All missing linters. -/
def missing : List MissingLinter := missingOf found r r.languages

/-- Adds the languages that are not yet among those needed. -/
def addNeeded (needed more : List (String × Language)) : List (String × Language) :=
  more.foldl (fun ns l => if ns.any fun n => n.1 == l.1 then ns else ns ++ [l]) needed

/-- The languages that some paths need, each once. -/
def neededFor (paths : List String) (mode : Option String) : List (String × Language) :=
  paths.foldl (fun ns path => addNeeded ns (r.languagesFor path mode)) []

/-- The missing linters among those that some paths need. -/
def missingFor (paths : List String) (mode : Option String) : List MissingLinter :=
  missingOf found r (r.neededFor paths mode)

/-! ## The check of a configuration -/

/-- Where a configuration comes from. -/
def sourceMessage (config : Config) : Console.Message :=
  .line .status ("configuration: " ++ config.source.getD "built-in default")

/-- How a language is told. -/
def languageMessage (entry : String × Language) : Console.Message :=
  .line .info ("  " ++ entry.1 ++ " (." ++ ", .".intercalate entry.2.extensions ++ "): "
    ++ ", ".intercalate entry.2.linters)

/-- Tells a configuration and its missing linters, and the exit code. -/
def check (config : Config) : List Console.Message × Nat :=
  let told := sourceMessage config :: config.languages.map languageMessage
  match missing found r with
  | [] => (told ++ [.line .status "all linters found"], 0)
  | lost => (told ++ lost.map (·.message), 1)

end Registry

end LintGate
