/-
The staged files of a commit.

A commit's files are told apart by how they are compared: modified or copied files
under their own name, added files against nothing, renamed files against their old
name. A path is the new name of one role only: modified or copied goes before
renamed, renamed before added.
-/
import LintGate.Session

set_option autoImplicit false

namespace LintGate

/-- The staged files of one commit. -/
structure StagedFiles where
  modifiedOrCopied : List String := []
  added : List String := []
  renames : List Rename := []
deriving DecidableEq, Repr

namespace StagedFiles

/-- The kinds compared under one name. -/
def comparedKinds : ChangeFilter := .of [.copied, .modified]

/-- The kind without a baseline. -/
def addedKind : ChangeFilter := .of [.added]

/-- Gives each new name to one role. -/
def ofAnswers (modifiedOrCopied added : List String) (renames : List Rename) : StagedFiles :=
  let renames := renames.filter fun r => !modifiedOrCopied.contains r.newPath
  let added := added.filter fun p =>
    !modifiedOrCopied.contains p && !renames.any fun r => r.newPath == p
  ⟨modifiedOrCopied, added, renames⟩

/-- Asks the version control for the staged files. -/
def classify {σ : Type} (vcs : VersionControl σ) : Act σ (Except VcsError StagedFiles) := do
  match ← vcs.askStagedPaths comparedKinds with
  | .error e => return .error e
  | .ok modifiedOrCopied =>
    match ← vcs.askStagedPaths addedKind with
    | .error e => return .error e
    | .ok added =>
      match ← vcs.askStagedRenames with
      | .error e => return .error e
      | .ok renames => return .ok (ofAnswers modifiedOrCopied added renames)

variable (files : StagedFiles)

/-- The name before the commit of a file with that name in it. -/
def baselineName (newPath : String) : String :=
  match files.renames.find? fun r => r.newPath == newPath with
  | some r => r.oldPath
  | none => newPath

/-- The new names of the renames. -/
def renamedTo : List String := files.renames.map (·.newPath)

/-- The old names of the renames. -/
def renamedFrom : List String := files.renames.map (·.oldPath)

/-- Every path of the commit. -/
def currentPaths : List String := files.modifiedOrCopied ++ files.added ++ files.renamedTo

/-- Every path that is linted before or after. -/
def lintPaths : List String := files.currentPaths ++ files.renamedFrom

/-- The number of staged files. -/
def size : Nat := files.modifiedOrCopied.length + files.added.length + files.renames.length

end StagedFiles

end LintGate
