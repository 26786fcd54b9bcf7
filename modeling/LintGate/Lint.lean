/-
What linters say.

A linter's answer on a file is its output and whether it signalled findings. Two
answers count as equal when their outputs are: the flag only tells how the output
came about. The answers of one side of a comparison are kept in the order in which
their files were first linted.
-/

set_option autoImplicit false

namespace LintGate

/-! ## Results -/

/-- The output of linting one file, and whether some linter signalled findings. -/
structure LintResult where
  text : String := ""
  warned : Bool := false
deriving DecidableEq, Repr

namespace LintResult

/-- Appends the answer of another linter for the same file. -/
def merge (r other : LintResult) : LintResult :=
  ⟨r.text ++ other.text, r.warned || other.warned⟩

/-- Whether two answers say the same. -/
def same (r other : LintResult) : Bool := r.text == other.text

end LintResult

/-! ## Results by path -/

/-- Lint results by path, in the order in which the paths were first put in. -/
structure Results where
  entries : List (String × LintResult) := []
deriving DecidableEq, Repr

namespace Results

/-- Replaces the value of the first entry under a path. -/
def replace (path : String) (result : LintResult) :
    List (String × LintResult) → List (String × LintResult)
  | [] => []
  | (p, r) :: rest => if p = path then (p, result) :: rest else (p, r) :: replace path result rest

/-- The result under a path. -/
def get? (m : Results) (path : String) : Option LintResult := m.entries.lookup path

/-- The paths in order. -/
def paths (m : Results) : List String := m.entries.map (·.1)

/-- Puts a result under a path. A path that is present keeps its place. -/
def insert (m : Results) (path : String) (result : LintResult) : Results :=
  if (m.get? path).isSome then ⟨replace path result m.entries⟩
  else ⟨m.entries ++ [(path, result)]⟩

/-- Takes a path out. -/
def erase (m : Results) (path : String) : Results :=
  ⟨m.entries.eraseP fun e => e.1 == path⟩

/-- Takes a path out by its position, and answers what was under it. -/
def remove (m : Results) (path : String) : Option LintResult × Results :=
  match m.entries.findIdx? fun e => e.1 == path with
  | none => (none, m)
  | some i => (m.entries[i]?.map (·.2), ⟨m.entries.eraseIdx i⟩)

/-- The results of pairs put in one after the other. -/
def ofList (pairs : List (String × LintResult)) : Results :=
  pairs.foldl (fun m e => m.insert e.1 e.2) {}

end Results

/-! ## Linters -/

/-- Why a file could not be linted. -/
inductive LintError where
  /-- The linter failed on this file. -/
  | crash (linter path message : String)
  /-- The linter cannot be used at all. -/
  | config (message : String)
deriving DecidableEq, Repr

namespace LintError

/-- The text of an error. -/
def text : LintError → String
  | crash linter path message => linter ++ " crashed on " ++ path ++ ": " ++ message
  | config message => message

/-- Whether the failure concerns the one file only. -/
def isPerFile : LintError → Bool
  | crash .. => true
  | config _ => false

end LintError

/-- The linting of files in a state `σ` that holds the working tree. The mode, if there is one,
narrows the languages. -/
structure Linter (σ : Type) where
  /-- Lints a path; no result when nothing is responsible for it. -/
  lint : String → Option String → StateM σ (Except LintError (Option LintResult))
  /-- Whether some linter is responsible for a path. -/
  handles : String → Option String → Bool

end LintGate
