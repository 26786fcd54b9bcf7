/-
The way back, as a relation between calls and what is reported.

`Restored` is the whole specification of an isolation's end: which calls bring the
frames and the record of a merge back, in which order, and what the report of an
incomplete restoration says in each case. It has two parts, and the second follows
the first whatever came of it.

* `FramesRestored`: the frames are reapplied in order. If all of them are back, all
  are forgotten, and a frame that cannot be forgotten is not reported. If one cannot be
  reapplied, none after it is tried and none at all is forgotten; the report names
  those that were back already and lists the others.
* `MergeRestored`: the record of the merge is written if there was one, and a failure
  of that is reported.

`does_restore` says that this is what restoring does. Everything that is proved about
the end of an isolation is read off these relations.
-/
import LintGate.Isolation
import LintGate.Proofs.History

set_option autoImplicit false

namespace LintGate.Isolation

open Act

variable {σ : Type} {vcs : VersionControl σ} {linter : Linter σ}

/-! ## The specification -/

/-- The call that reapplies a frame, with success. -/
def broughtBack (frame : Frame) : Event := .applyFrame frame (.ok ())

/-- How the failure to reapply a frame is told. -/
def stuckText (frame : Frame) (e : VcsError) : String := (restorePhase frame).text ++ ": " ++ e.text

/-- How the failure to write the record of a merge back is told. -/
def lostMergeText (e : VcsError) : String := Phase.restoreMergeState.text ++ ": " ++ e.text

/-- The calls that reapply frames, with those that are back and what went wrong. -/
inductive Reapplied (frames : List Frame) :
    List Event → List Frame × Option (String × List Frame) → Prop where
  | all : Reapplied frames (frames.map broughtBack) (frames, none)
  | stuck {applied rest : List Frame} {frame : Frame} {e : VcsError}
      (h : frames = applied ++ frame :: rest) :
      Reapplied frames (applied.map broughtBack ++ [.applyFrame frame (.error e)])
        (applied, some (stuckText frame e, frame :: rest))

/-- The calls that forget frames: one for each, whatever the answers. -/
def Forgotten (frames : List Frame) (es : List Event) : Prop :=
  List.Forall₂ (fun frame e => ∃ answer, e = .dropFrame frame answer) frames es

/-- The calls that bring frames back, with what is reported. -/
inductive FramesRestored (frames : List Frame) : List Event → Desync → Prop where
  | all {drops : List Event} (h : Forgotten frames drops) :
      FramesRestored frames (frames.map broughtBack ++ drops) {}
  | stuck {applied rest : List Frame} {frame : Frame} {e : VcsError}
      (h : frames = applied ++ frame :: rest) :
      FramesRestored frames (applied.map broughtBack ++ [.applyFrame frame (.error e)])
        ⟨stuckText frame e :: applied.map keptText, frame :: rest⟩

/-- The calls that bring the record of a merge back, with what is reported. -/
inductive MergeRestored : Option MergeState → List Event → List String → Prop where
  | none : MergeRestored none [] []
  | written {merge : MergeState} :
      MergeRestored (some merge) [.writeMergeState merge (.ok ())] []
  | lost {merge : MergeState} {e : VcsError} :
      MergeRestored (some merge) [.writeMergeState merge (.error e)] [lostMergeText e]

/-- The calls that end an isolation, with what is reported. -/
inductive Restored (merge : Option MergeState) (frames : List Frame) : List Event → Desync → Prop where
  | intro {back written : List Event} {d : Desync} {failures : List String}
      (hback : FramesRestored frames back d) (hwritten : MergeRestored merge written failures) :
      Restored merge frames (back ++ written) { d with failures := d.failures ++ failures }

/-! ## The steps meet it -/

theorem does_announce (verbose : Bool) (phase : Phase) :
    Does vcs linter (announce verbose phase) fun es _ => calls es = [] := by
  rw [announce]
  split
  · exact (does_line _ _).mono fun es _ h => by rw [h, calls_say, calls_nil]
  · exact does_pure rfl

/-- An announcement in front of an action is no call. -/
theorem Does.announced {α : Type} {act : Act σ α} {post : List Event → α → Prop}
    (verbose : Bool) (phase : Phase) (h : Does vcs linter act fun es a => post (calls es) a) :
    Does vcs linter (announce verbose phase >>= fun _ => act) fun es a => post (calls es) a := by
  refine Does.bind (does_announce verbose phase) fun es _ hes => ?_
  refine h.mono fun es' a ha => ?_
  rw [calls_append, hes, List.nil_append]
  exact ha

theorem does_reapply (verbose : Bool) (frames : List Frame) :
    Does vcs linter (reapply vcs verbose frames) fun es r => Reapplied frames (calls es) r := by
  induction frames with
  | nil => exact does_pure .all
  | cons frame rest ih =>
    refine Does.announced verbose _ (Does.bind (VersionControl.does_apply frame) ?_)
    rintro _ answer rfl
    cases answer with
    | error e => exact does_pure (@Reapplied.stuck _ [] rest frame e rfl)
    | ok u =>
      -- the frame goes in front of those that are back
      refine Does.bind ih ?_
      rintro es ⟨applied, failure⟩ h
      refine does_pure ?_
      rw [List.append_nil, calls_append]
      generalize calls es = cs at h
      cases h with
      | all => exact .all
      | stuck h => exact @Reapplied.stuck _ (frame :: applied) _ _ _ (congrArg (frame :: ·) h)

theorem does_discard (frames : List Frame) :
    Does vcs linter (discard vcs frames) fun es _ => Forgotten frames (calls es) := by
  induction frames with
  | nil => exact does_pure List.Forall₂.nil
  | cons frame rest ih =>
    refine Does.bind (VersionControl.does_drop frame) ?_
    rintro _ answer rfl
    cases answer with
    | ok u => exact ih.mono fun es _ h => List.Forall₂.cons ⟨_, rfl⟩ h
    | error e =>
      -- a frame that stays is told of, and the others are still forgotten
      refine Does.bind (does_line _ _) ?_
      rintro _ _ rfl
      exact ih.mono fun es _ h => List.Forall₂.cons ⟨_, rfl⟩ h

theorem does_restoreFrames (i : Isolation) :
    Does vcs linter (restoreFrames vcs i) fun es d => FramesRestored i.frames (calls es) d := by
  refine Does.bind (does_reapply i.verbose i.frames) ?_
  rintro es ⟨applied, failure⟩ h
  generalize hcs : calls es = cs at h
  cases h with
  | all =>
    simp only [calls_append, hcs]
    refine @Does.announced _ _ _ _ _ (fun cs d => FramesRestored _ (_ ++ cs) d) _ _ ?_
    refine Does.bind (does_discard i.frames) fun es' _ h' => does_pure ?_
    rw [List.append_nil]
    exact .all h'
  | stuck h =>
    refine does_pure ?_
    rw [List.append_nil, hcs]
    exact .stuck h

theorem does_restoreMerge (i : Isolation) :
    Does vcs linter (restoreMerge vcs i) fun es f => MergeRestored i.merge (calls es) f := by
  refine Does.announced _ _ ?_
  cases i.merge with
  | none => exact does_pure .none
  | some merge =>
    refine Does.bind (VersionControl.does_writeMerge merge) ?_
    rintro _ answer rfl
    cases answer with
    | ok u => exact does_pure .written
    | error e => exact does_pure .lost

/-- **Restoring meets its specification**, whatever the version control answers. -/
theorem does_restore (i : Isolation) :
    Does vcs linter (restore vcs i) fun es d => Restored i.merge i.frames (calls es) d := by
  refine Does.bind (does_restoreFrames i) fun es d h => ?_
  refine Does.bind (does_restoreMerge i) fun es' failures h' => ?_
  refine Does.bind (does_announce i.verbose .done) fun es'' _ h'' => does_pure ?_
  rw [List.append_nil, calls_append, calls_append, h'', List.append_nil]
  exact .intro h h'

/-- An isolation that was abandoned is restored as well, and what is left incomplete is told in the
banner. -/
theorem does_abandon (i : Isolation) :
    Does vcs linter (abandon vcs i) fun es _ => ∃ d, Restored i.merge i.frames (calls es) d ∧
      (d.isClean = false → .say (.alarm alarmTitle d.text) ∈ es) := by
  refine Does.bind (does_line _ _) ?_
  rintro _ _ rfl
  refine Does.bind (does_restore i) fun es d h => ?_
  by_cases hclean : d.isClean = true
  · simp only [hclean, if_true]
    refine does_pure ⟨d, ?_, fun hdirty => absurd hclean (Bool.eq_false_iff.mp hdirty)⟩
    rw [List.append_nil, List.singleton_append, calls_say]
    exact h
  · rw [if_neg hclean]
    refine (does_say _).mono ?_
    rintro _ _ rfl
    refine ⟨d, ?_, fun _ => by simp⟩
    rw [List.singleton_append, calls_say, calls_append, calls_say, calls_nil, List.append_nil]
    exact h

/-! ## What the report says -/

/-- A call that leaves a restoration incomplete: a frame that is not back, or the record of a merge
that is not written. A frame that is not forgotten is neither. -/
def FailsRestoring : Event → Prop
  | .applyFrame _ (.error _) => True
  | .writeMergeState _ (.error _) => True
  | _ => False

/-- A restoration reports something exactly when one of its calls left it incomplete. -/
theorem Restored.isClean_iff {merge : Option MergeState} {frames : List Frame} {es : List Event}
    {d : Desync} (h : Restored merge frames es d) :
    d.isClean = true ↔ ∀ e ∈ es, ¬FailsRestoring e := by
  obtain @⟨back, written, d, failures, hback, hwritten⟩ := h
  have hfront : d.isClean = true ↔ ∀ e ∈ back, ¬FailsRestoring e := by
    cases hback with
    | all hdrops =>
      refine ⟨fun _ e he => ?_, fun _ => rfl⟩
      rcases List.mem_append.mp he with he | he
      · obtain ⟨frame, -, rfl⟩ := List.mem_map.mp he
        exact id
      · obtain ⟨frame, -, answer, rfl⟩ := exists_of_mem_forall₂ hdrops he
        exact id
    | stuck h =>
      refine ⟨fun hclean => Bool.noConfusion hclean, fun hnone => ?_⟩
      exact absurd trivial (hnone _ (List.mem_append_right _ (List.mem_singleton_self _)))
  have hend : failures = [] ↔ ∀ e ∈ written, ¬FailsRestoring e := by
    cases hwritten with
    | none => simp
    | written => simp [FailsRestoring]
    | lost => simp [FailsRestoring]
  have hclean : Desync.isClean { d with failures := d.failures ++ failures } = true ↔
      d.isClean = true ∧ failures = [] := by
    simp only [Desync.isClean, Bool.and_eq_true, List.isEmpty_iff, List.append_eq_nil_iff]
    exact and_right_comm
  rw [hclean, hfront, hend]
  simp only [List.mem_append, or_imp, forall_and]

end LintGate.Isolation
