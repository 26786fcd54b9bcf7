/-
Why a run of the gate fails.

Each failure is a cause; its text tells the cause whole, so that no error hides
another behind it.
-/
import LintGate.VersionControl
import LintGate.Lint

set_option autoImplicit false

namespace LintGate

/-- The two kinds of uncommitted change that are set aside. -/
inductive Side where
  | unstaged
  | staged
deriving DecidableEq, Repr

/-- The name of a side. -/
def Side.text : Side → String
  | unstaged => "unstaged changes"
  | staged => "staged changes"

/-- A restoration that did not complete: what went wrong, and the frames that still hold changes. -/
structure Desync where
  failures : List String := []
  stranded : List Frame := []
deriving DecidableEq, Repr

namespace Desync

/-- Whether nothing went wrong. -/
def isClean (d : Desync) : Bool := d.failures.isEmpty && d.stranded.isEmpty

/-- How stranded changes are recovered. -/
def recoveryHint : String :=
  "recover them with \x60git stash apply --index <id>\x60, unstaged changes first"

/-- The report of an incomplete restoration. -/
def text (d : Desync) : String :=
  "workspace restoration did not complete\n"
    ++ String.join (d.failures.map fun f => "  " ++ f ++ "\n")
    ++ (if d.stranded.isEmpty then ""
      else
        "uncommitted changes remain in these stash entries:\n"
          ++ String.join (d.stranded.map fun f => "  " ++ f.id ++ " (" ++ f.label ++ ")\n")
          ++ recoveryHint)

end Desync

/-- Why a run fails. -/
inductive RunError where
  /-- A tool is missing, or this is no place to run in. -/
  | environment (message : String)
  /-- The staged changes could not be told apart. -/
  | classification (error : VcsError)
  /-- Changes could not be set aside. -/
  | isolation (side : Side) (error : VcsError)
  /-- A linter failed for more than one file. -/
  | linter (error : LintError)
  /-- The workspace could not be brought back. -/
  | desync (d : Desync)
  /-- A file could not be written. -/
  | io (path reason : String)
deriving DecidableEq, Repr

/-- The text of a failure. -/
def RunError.text : RunError → String
  | environment message => message
  | classification e => "failed to classify staged changes: " ++ e.text
  | isolation side e => "failed to isolate " ++ side.text ++ ": " ++ e.text
  | linter e => "linting aborted: " ++ e.text
  | desync d => d.text
  | io path reason => "failed to write " ++ path ++ ": " ++ reason

/-- A text with the context it arose in, if there is one. -/
def withContext (context : Option String) (text : String) : String :=
  match context with
  | some c => c ++ ": " ++ text
  | none => text

end LintGate
