/-
What telling the staged files apart asks for.

The version control is asked three times, for the files that are compared under one name,
for the added ones and for the renames. `Asked` lists the courses this can take, one for
each answer that may be a failure and one in which all three are given; a failure is
answered as it is and nothing is asked after it.
-/
import LintGate.Staged
import LintGate.Proofs.History

set_option autoImplicit false

namespace LintGate.StagedFiles

open Act

/-- The calls by which the staged files are told apart, and the answer to which they lead. -/
inductive Asked : List Event → Except VcsError StagedFiles → Prop where
  /-- The files that are compared under one name are not told. -/
  | comparedUntold {e : VcsError} : Asked [.stagedPaths comparedKinds (.error e)] (.error e)
  /-- The added ones are not. -/
  | addedUntold {compared : List String} {e : VcsError} :
      Asked [.stagedPaths comparedKinds (.ok compared), .stagedPaths addedKind (.error e)] (.error e)
  /-- The renames are not. -/
  | renamesUntold {compared added : List String} {e : VcsError} :
      Asked [.stagedPaths comparedKinds (.ok compared), .stagedPaths addedKind (.ok added),
        .stagedRenames (.error e)] (.error e)
  /-- All are told. -/
  | told {compared added : List String} {renames : List Rename} :
      Asked [.stagedPaths comparedKinds (.ok compared), .stagedPaths addedKind (.ok added),
        .stagedRenames (.ok renames)] (.ok (ofAnswers compared added renames))

/-- **Telling the staged files apart takes one of these courses**, whatever the version control
answers. -/
theorem does_classify_asked {σ : Type} (vcs : VersionControl σ) (linter : Linter σ) :
    Does vcs linter (classify vcs) Asked := by
  refine Does.bind (VersionControl.does_askStagedPaths _) ?_
  rintro _ compared rfl
  cases compared with
  | error e => exact does_pure .comparedUntold
  | ok compared =>
  refine Does.bind (VersionControl.does_askStagedPaths _) ?_
  rintro _ added rfl
  cases added with
  | error e => exact does_pure .addedUntold
  | ok added =>
  refine Does.bind VersionControl.does_askStagedRenames ?_
  rintro _ renames rfl
  cases renames with
  | error e => exact does_pure .renamesUntold
  | ok renames => exact does_pure .told

end LintGate.StagedFiles
