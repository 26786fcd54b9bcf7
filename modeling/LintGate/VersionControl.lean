/-
The version control as the gate uses it.

The gate asks for the staged changes, sets uncommitted changes aside in holding
frames and brings them back, and reads and writes the record of a merge in
progress. A version control is a record of these operations on a state of its
own, so that a statement about the gate can speak of every behaviour it may have.
-/
import LintGate.Change
import LintGate.Text.Bytes

set_option autoImplicit false

namespace LintGate

/-- A holding frame: where a set of uncommitted changes is kept, and under which label. -/
structure Frame where
  id : String
  label : String
deriving DecidableEq, Repr

/-- The record of a merge in progress, byte for byte. -/
structure MergeState where
  head : Bytes
  message : Option Bytes
  mode : Option Bytes
deriving DecidableEq, Repr

/-- A failed attempt to record a frame. When `held` is set the frame was recorded before the
failure, and the changes it holds are gone from the working tree. -/
structure SaveError where
  error : VcsError
  held : Option Frame := none
deriving DecidableEq, Repr

/-- The operations of a version control with state `σ`. -/
structure VersionControl (σ : Type) where
  /-- The staged paths whose kind is in the filter. -/
  stagedPaths : ChangeFilter → StateM σ (Except VcsError (List String))
  /-- The staged renames. -/
  stagedRenames : StateM σ (Except VcsError (List Rename))
  /-- Whether there is a commit to compare with. -/
  hasCommits : StateM σ (Except VcsError Bool)
  /-- Sets the uncommitted changes aside under a label; `true` keeps the staged ones in place.
  Answers no frame when there is nothing to set aside. -/
  saveFrame : String → Bool → StateM σ (Except SaveError (Option Frame))
  /-- Brings the changes of a frame back, staged ones as staged. -/
  applyFrame : Frame → StateM σ (Except VcsError Unit)
  /-- Forgets a frame. -/
  dropFrame : Frame → StateM σ (Except VcsError Unit)
  /-- The frames under one of the labels, newest first. -/
  heldFrames : List String → StateM σ (Except VcsError (List Frame))
  /-- The record of a merge in progress. -/
  readMergeState : StateM σ (Except VcsError (Option MergeState))
  /-- Writes that record. -/
  writeMergeState : MergeState → StateM σ (Except VcsError Unit)

/-! ## The labels of the gate's own frames -/

/-- The label of the frame that holds the unstaged changes. -/
def unstagedLabel : String := "difflint: unstaged changes"

/-- The label of the frame that holds the staged changes. -/
def stagedLabel : String := "difflint: staged changes"

end LintGate
