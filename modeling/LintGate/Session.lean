/-
Sessions: what the gate does, step by step.

A session holds the state of the collaborators and the list of events so far. An
event is a call of a collaborator together with its answer, or a message to the
console. The gate's actions change a session only through the calls below, so that
the list of events is a complete record: what was asked, in which order, and what
came of it.
-/
import LintGate.Console
import LintGate.Failure

set_option autoImplicit false

namespace LintGate

/-- Something the gate did. -/
inductive Event where
  | stagedPaths (filter : ChangeFilter) (answer : Except VcsError (List String))
  | stagedRenames (answer : Except VcsError (List Rename))
  | hasCommits (answer : Except VcsError Bool)
  | saveFrame (label : String) (keepIndex : Bool) (answer : Except SaveError (Option Frame))
  | applyFrame (frame : Frame) (answer : Except VcsError Unit)
  | dropFrame (frame : Frame) (answer : Except VcsError Unit)
  | heldFrames (labels : List String) (answer : Except VcsError (List Frame))
  | readMergeState (answer : Except VcsError (Option MergeState))
  | writeMergeState (merge : MergeState) (answer : Except VcsError Unit)
  | lint (path : String) (mode : Option String) (answer : Except LintError (Option LintResult))
  | say (message : Console.Message)

/-- The collaborators' state and the events so far. -/
structure Session (σ : Type) where
  world : σ
  events : List Event := []

/-- An action of the gate. -/
abbrev Act (σ : Type) (α : Type) := StateM (Session σ) α

namespace Act

variable {σ α : Type}

/-- Performs a collaborator's operation and records it. -/
def perform (operation : StateM σ α) (event : α → Event) : Act σ α := fun s =>
  let (answer, world) := operation s.world
  (answer, ⟨world, s.events ++ [event answer]⟩)

/-- Performs an operation that is no call of a collaborator. -/
def quietly (operation : StateM σ α) : Act σ α := fun s =>
  let (answer, world) := operation s.world
  (answer, { s with world })

/-- Says something. -/
def say (message : Console.Message) : Act σ Unit := fun s =>
  ((), ⟨s.world, s.events ++ [.say message]⟩)

/-- Says a line at a level. -/
def line (level : Console.Level) (text : String) : Act σ Unit := say (.line level text)

end Act

namespace Session

/-- What was said, in order. -/
def messages {σ : Type} (s : Session σ) : List Console.Message :=
  s.events.filterMap fun
    | .say m => some m
    | _ => none

end Session

/-! ## The collaborators' operations as actions -/

namespace VersionControl

variable {σ : Type} (vcs : VersionControl σ)

/-- Asks for staged paths. -/
def askStagedPaths (filter : ChangeFilter) : Act σ (Except VcsError (List String)) :=
  Act.perform (vcs.stagedPaths filter) (.stagedPaths filter)

/-- Asks for staged renames. -/
def askStagedRenames : Act σ (Except VcsError (List Rename)) :=
  Act.perform vcs.stagedRenames .stagedRenames

/-- Asks whether there are commits. -/
def askHasCommits : Act σ (Except VcsError Bool) := Act.perform vcs.hasCommits .hasCommits

/-- Sets changes aside. -/
def save (label : String) (keepIndex : Bool) : Act σ (Except SaveError (Option Frame)) :=
  Act.perform (vcs.saveFrame label keepIndex) (.saveFrame label keepIndex)

/-- Brings a frame back. -/
def apply (frame : Frame) : Act σ (Except VcsError Unit) :=
  Act.perform (vcs.applyFrame frame) (.applyFrame frame)

/-- Forgets a frame. -/
def drop (frame : Frame) : Act σ (Except VcsError Unit) :=
  Act.perform (vcs.dropFrame frame) (.dropFrame frame)

/-- Asks for the frames under some labels. -/
def askHeldFrames (labels : List String) : Act σ (Except VcsError (List Frame)) :=
  Act.perform (vcs.heldFrames labels) (.heldFrames labels)

/-- Reads the record of a merge. -/
def readMerge : Act σ (Except VcsError (Option MergeState)) :=
  Act.perform vcs.readMergeState .readMergeState

/-- Writes the record of a merge. -/
def writeMerge (merge : MergeState) : Act σ (Except VcsError Unit) :=
  Act.perform (vcs.writeMergeState merge) (.writeMergeState merge)

end VersionControl

namespace Linter

/-- Lints a path. -/
def run {σ : Type} (linter : Linter σ) (path : String) (mode : Option String) :
    Act σ (Except LintError (Option LintResult)) :=
  Act.perform (linter.lint path mode) (.lint path mode)

end Linter

end LintGate
