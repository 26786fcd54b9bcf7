/-
Isolation of the workspace.

To see the commit as it will be, unstaged changes are set aside; to see what it
replaces, staged changes are set aside as well. From the first of these steps on
the uncommitted work lives in holding frames, and an isolation is the record of
them: whoever ends it brings them back.

The way back is one sequence. The frames are reapplied, the unstaged one first
because it carries the index too, up to the first that fails. If all are back they
are forgotten; if one failed, all are kept, so that nothing is lost. At last the
record of a merge in progress, which setting changes aside destroys, is written back.
-/
import LintGate.Session

set_option autoImplicit false

namespace LintGate

/-- The steps of a run over the workspace, in order. -/
inductive Phase where
  | idle
  | captureMergeState
  | isolateUnstaged
  | lintCurrent
  | isolateStaged
  | lintBaseline
  | restoreUnstaged
  | restoreStaged
  | discardFrames
  | restoreMergeState
  | done
deriving DecidableEq, Repr

/-- The name of a step. -/
def Phase.text : Phase → String
  | idle => "idle"
  | captureMergeState => "capture merge state"
  | isolateUnstaged => "isolate unstaged changes"
  | lintCurrent => "lint current"
  | isolateStaged => "isolate staged changes"
  | lintBaseline => "lint baseline"
  | restoreUnstaged => "restore unstaged changes"
  | restoreStaged => "restore staged changes"
  | discardFrames => "discard frames"
  | restoreMergeState => "restore merge state"
  | done => "done"

/-- What has to be brought back: the record of a merge and the frames that hold changes. -/
structure Isolation where
  phase : Phase := .idle
  merge : Option MergeState := none
  unstaged : Option Frame := none
  staged : Option Frame := none
  verbose : Bool := false
deriving DecidableEq, Repr

namespace Isolation

variable {σ : Type} (vcs : VersionControl σ)

/-- Tells the step that begins, if asked to. -/
def announce (verbose : Bool) (phase : Phase) : Act σ Unit :=
  if verbose then Act.line .info ("difflint: " ++ phase.text) else pure ()

/-! ## Into isolation -/

/-- Reads the record of a merge before anything can destroy it. -/
def capture (verbose : Bool) : Act σ (Except RunError Isolation) := do
  announce verbose .captureMergeState
  match ← vcs.readMerge with
  | .error e => return .error (.environment ("failed to read merge state: " ++ e.text))
  | .ok merge => return .ok ⟨.captureMergeState, merge, none, none, verbose⟩

/-- Sets the unstaged changes aside and keeps the staged ones in place. -/
def isolateUnstaged (i : Isolation) : Act σ (Except RunError Unit × Isolation) := do
  announce i.verbose .isolateUnstaged
  match ← vcs.save unstagedLabel true with
  | .ok frame =>
    announce i.verbose .lintCurrent
    return (.ok (), { i with phase := .lintCurrent, unstaged := frame })
  | .error e =>
    return (.error (.isolation .unstaged e.error),
      { i with phase := .isolateUnstaged, unstaged := e.held })

/-- Sets the staged changes aside, which leaves the baseline. -/
def isolateStaged (i : Isolation) : Act σ (Except RunError Unit × Isolation) := do
  announce i.verbose .isolateStaged
  match ← vcs.save stagedLabel false with
  | .ok frame =>
    announce i.verbose .lintBaseline
    return (.ok (), { i with phase := .lintBaseline, staged := frame })
  | .error e =>
    return (.error (.isolation .staged e.error),
      { i with phase := .isolateStaged, staged := e.held })

/-! ## The way back -/

/-- The frames to bring back, in order. -/
def frames (i : Isolation) : List Frame := i.unstaged.toList ++ i.staged.toList

/-- The step in which a frame is reapplied. -/
def restorePhase (frame : Frame) : Phase :=
  if frame.label = unstagedLabel then .restoreUnstaged else .restoreStaged

/-- Reapplies frames up to the first that fails. Answers those that are back, and the failure with
the frames that are not. -/
def reapply (verbose : Bool) : List Frame → Act σ (List Frame × Option (String × List Frame))
  | [] => return ([], none)
  | frame :: rest => do
    announce verbose (restorePhase frame)
    match ← vcs.apply frame with
    | .error e => return ([], some ((restorePhase frame).text ++ ": " ++ e.text, frame :: rest))
    | .ok () =>
      let (applied, failure) ← reapply verbose rest
      return (frame :: applied, failure)

/-- Forgets frames that are back. One that cannot be forgotten is clutter, not a loss. -/
def discard : List Frame → Act σ Unit
  | [] => return ()
  | frame :: rest => do
    match ← vcs.drop frame with
    | .ok () => discard rest
    | .error e =>
      Act.line .warning
        ("failed to drop stash entry " ++ frame.id ++ " (" ++ frame.label ++ "): " ++ e.text)
      discard rest

/-- How a frame that is back but was kept is told. -/
def keptText (frame : Frame) : String := "stash entry " ++ frame.id ++ " was reapplied but kept"

/-- Reapplies the frames, and forgets them if all are back. -/
def restoreFrames (i : Isolation) : Act σ Desync := do
  let (applied, failure) ← reapply vcs i.verbose i.frames
  match failure with
  | none =>
    announce i.verbose .discardFrames
    discard vcs i.frames
    return {}
  | some (text, stranded) => return ⟨text :: applied.map keptText, stranded⟩

/-- Writes the record of the merge back, if there was one. Answers what went wrong. -/
def restoreMerge (i : Isolation) : Act σ (List String) := do
  announce i.verbose .restoreMergeState
  match i.merge with
  | none => return []
  | some merge =>
    match ← vcs.writeMerge merge with
    | .ok () => return []
    | .error e => return [Phase.restoreMergeState.text ++ ": " ++ e.text]

/-- Brings everything back. -/
def restore (i : Isolation) : Act σ Desync := do
  let d ← restoreFrames vcs i
  let failures ← restoreMerge vcs i
  announce i.verbose .done
  return { d with failures := d.failures ++ failures }

/-! ## Ends of an isolation -/

/-- Ends an isolation in the normal course. -/
def release (i : Isolation) : Act σ (Except RunError Unit) := do
  let d ← restore vcs i
  return if d.isClean then .ok () else .error (.desync d)

/-- The title of the banner for a workspace that could not be brought back. -/
def alarmTitle : String := "DIFFLINT COULD NOT RESTORE YOUR WORKSPACE"

/-- Ends an isolation that was abandoned. -/
def abandon (i : Isolation) : Act σ Unit := do
  Act.line .warning ("restoring workspace after an interrupted run (" ++ i.phase.text ++ ")")
  let d ← restore vcs i
  if d.isClean then return () else Act.say (.alarm alarmTitle d.text)

/-- An isolation in the hands of its owner, and whether it was ended. -/
structure Guard where
  isolation : Isolation
  released : Bool := false

/-- What happens when the owner lets go: an isolation that was not ended yet is abandoned. -/
def Guard.letGo (g : Guard) : Act σ Unit :=
  if g.released then return () else abandon vcs g.isolation

/-- Ends an isolation in the normal course, and lets go of it. -/
def Guard.release (g : Guard) : Act σ (Except RunError Unit) := do
  let answer ← Isolation.release vcs g.isolation
  Guard.letGo vcs { g with released := true }
  return answer

end Isolation

end LintGate
