/-
The steps into isolation.

The two steps that set changes aside differ in the label of the frame, in whether the
staged changes stay in place, and in the slot that keeps the frame; `isolate` is either
of them. A step makes one call. When the call fails the step fails, but a frame that
was recorded all the same is kept, because it holds changes.
-/
import LintGate.Proofs.Isolation.Restoration

set_option autoImplicit false

namespace LintGate

/-- The label of the frame for a side. -/
def Side.label : Side → String
  | unstaged => unstagedLabel
  | staged => stagedLabel

/-- Whether the staged changes stay in place when a side is set aside. -/
def Side.keepsIndex : Side → Bool
  | unstaged => true
  | staged => false

namespace Isolation

open Act

variable {σ : Type} {vcs : VersionControl σ} {linter : Linter σ}

/-! ## The specification -/

/-- What reading the record of a merge calls for and answers. -/
inductive Captured (verbose : Bool) : List Event → Except RunError Isolation → Prop where
  | read {merge : Option MergeState} :
      Captured verbose [.readMergeState (.ok merge)]
        (.ok ⟨.captureMergeState, merge, none, none, verbose⟩)
  | unread {e : VcsError} :
      Captured verbose [.readMergeState (.error e)]
        (.error (.environment ("failed to read merge state: " ++ e.text)))

/-- The isolation with a frame, or none, in the slot of a side. -/
def hold (i : Isolation) (side : Side) (frame : Option Frame) (phase : Phase) : Isolation :=
  match side with
  | .unstaged => { i with phase, unstaged := frame }
  | .staged => { i with phase, staged := frame }

@[simp] theorem hold_merge (i : Isolation) (side : Side) (frame : Option Frame) (phase : Phase) :
    (i.hold side frame phase).merge = i.merge := by
  cases side <;> rfl

variable (vcs) in
/-- Sets the changes of a side aside. -/
def isolate (side : Side) (i : Isolation) : Act σ (Except RunError Unit × Isolation) :=
  match side with
  | .unstaged => isolateUnstaged vcs i
  | .staged => isolateStaged vcs i

/-- The steps that are told when a side is set aside: while it is, and after. -/
def enters : Side → Phase × Phase
  | .unstaged => (.isolateUnstaged, .lintCurrent)
  | .staged => (.isolateStaged, .lintBaseline)

/-- What setting a side aside calls for and answers. -/
inductive SetAside (side : Side) (i : Isolation) :
    List Event → Except RunError Unit × Isolation → Prop where
  | done {frame : Option Frame} :
      SetAside side i [.saveFrame side.label side.keepsIndex (.ok frame)]
        (.ok (), i.hold side frame (enters side).2)
  | refused {e : SaveError} :
      SetAside side i [.saveFrame side.label side.keepsIndex (.error e)]
        (.error (.isolation side e.error), i.hold side e.held (enters side).1)

/-! ## The steps meet it -/

theorem does_capture (verbose : Bool) :
    Does vcs linter (capture vcs verbose) fun es r => Captured verbose (calls es) r := by
  refine Does.announced _ _ (Does.bind VersionControl.does_readMerge ?_)
  rintro _ answer rfl
  cases answer with
  | error e => exact does_pure .unread
  | ok merge => exact does_pure .read

theorem does_isolate (side : Side) (i : Isolation) :
    Does vcs linter (isolate vcs side i) fun es r => SetAside side i (calls es) r := by
  cases side with
  | unstaged =>
    refine Does.announced _ _ (Does.bind (VersionControl.does_save _ _) ?_)
    rintro _ answer rfl
    cases answer with
    | error e => exact does_pure (@SetAside.refused .unstaged i e)
    | ok frame =>
      refine Does.bind (does_announce _ _) fun es _ hes => does_pure ?_
      rw [List.append_nil, calls_append, hes]
      exact @SetAside.done .unstaged i frame
  | staged =>
    refine Does.announced _ _ (Does.bind (VersionControl.does_save _ _) ?_)
    rintro _ answer rfl
    cases answer with
    | error e => exact does_pure (@SetAside.refused .staged i e)
    | ok frame =>
      refine Does.bind (does_announce _ _) fun es _ hes => does_pure ?_
      rw [List.append_nil, calls_append, hes]
      exact @SetAside.done .staged i frame

end Isolation

end LintGate
