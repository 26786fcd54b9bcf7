/-
A run in a stash that is shared with others.

While both sides are linted, the gate's entries stand in the stash among those of others,
who may push more of them all the time. The way back drops the gate's entries again. The
course of the calls tells which frames there are and when they are forgotten, and what each
call does to the stash is known (`Repository.Keeps`), so what the whole run does is an
induction over the record of its calls.

`Keeps.shares_stash` says what the gate does to a shared stash: what forgetting a frame
does, what a run leaves, and which frames are found. `Shelf` is a repository that is nothing
but a stash, with somebody who pushes an entry behind some of the calls. In it the theorem is
applied to a run in which entries of others come in between the gate's own, and the two
places are shown where others can make a difference: blank space behind a label, and an entry
pushed between a listing and a drop.
-/
import LintGate.Proofs.Repository.Shelf

set_option autoImplicit false

namespace LintGate

open StashEntry (ids framesBorne ownLabels)

variable {σ : Type}

/-! ## Calls that leave the gate's entries alone -/

/-- A call that records no frame and forgets none. -/
def Event.LeavesFrames (e : Event) : Prop :=
  e.recorded? = none ∧ ∀ frame answer, e ≠ .dropFrame frame answer

theorem leavesFrames_broughtBack {frames : List Frame} {e : Event}
    (he : e ∈ frames.map Isolation.broughtBack) : e.LeavesFrames := by
  obtain ⟨frame, -, rfl⟩ := List.mem_map.mp he
  exact ⟨rfl, fun _ _ => Event.noConfusion⟩

theorem leavesFrames_written {merge : Option MergeState} {es : List Event} {failures : List String}
    (h : Isolation.MergeRestored merge es failures) {e : Event} (he : e ∈ es) : e.LeavesFrames := by
  cases h with
  | none => cases he
  | written =>
    rw [List.mem_singleton.mp he]
    exact ⟨rfl, fun _ _ => Event.noConfusion⟩
  | lost =>
    rw [List.mem_singleton.mp he]
    exact ⟨rfl, fun _ _ => Event.noConfusion⟩

/-! ## What a run leaves -/

/-- What calls left of the stash, given the frames that were to be brought back: all of them were
forgotten, and the stash is the old one with the entries of the others on top; or one could not be brought
back, none was forgotten, and all their entries are held. -/
def Stash.Left (stash : Stash σ) (frames : List Frame) (es : List Event) (w w' : σ) : Prop :=
  ((∀ frame ∈ frames, .dropFrame frame (.ok ()) ∈ es) ∧ stash.Grows w w') ∨
    ((∃ frame e, .applyFrame frame (.error e) ∈ es) ∧ (∀ frame answer, .dropFrame frame answer ∉ es) ∧
      stash.Carries w (frames.map Frame.id) w')

namespace Repository.Keeps

variable {r : Repository σ} {stash : Stash σ} {linter : Linter σ} {w v w' : σ} {mode : Option String}
  {files : StagedFiles} {es : List Event}

variable (h : r.Keeps stash) (hundisturbed : r.Undisturbed stash)
  (hlint : ∀ path mode s, stash.Grows s (linter.lint path mode s).2)

include h hundisturbed hlint

/-- Calls that record no frame and forget none leave what is held. -/
theorem carries_left {earlier : σ} {held : List String}
    (hist : History r.versionControl linter es w w') (hleaves : ∀ e ∈ es, e.LeavesFrames)
    (hcarries : stash.Carries earlier held w) : stash.Carries earlier held w' := by
  have hnext := h.carries_recorded hundisturbed hlint hist
    (fun frame answer hmem => (hleaves _ hmem).2 frame answer rfl) hcarries
  rwa [recorded_eq_nil fun e he => (hleaves e he).1, List.map_nil, List.append_nil] at hnext

/-- What the way back leaves of the stash, if exactly the frames that it is given are held before. -/
theorem back_left {merge : Option MergeState} {frames : List Frame} {d : Desync}
    (hback : Isolation.Restored merge frames es d) (hist : History r.versionControl linter es v w')
    (hheld : stash.Carries w (frames.map Frame.id) v) : stash.Left frames es w w' := by
  cases hback with | @intro back written d failures hframes hwritten
  obtain ⟨u, histback, histwritten⟩ := hist.split
  have hlast : ∀ {held : List String}, stash.Carries w held u → stash.Carries w held w' :=
    h.carries_left hundisturbed hlint histwritten fun _ he => leavesFrames_written hwritten he
  cases hframes with
  | @all drops hdrops =>
    -- all frames are back, and then each of them is forgotten
    obtain ⟨u', histapplied, histdrops⟩ := histback.split
    have happlied : stash.Carries w (frames.map Frame.id) u' :=
      h.carries_left hundisturbed hlint histapplied (fun _ he => leavesFrames_broughtBack he) hheld
    rw [← List.append_nil (frames.map Frame.id)] at happlied
    obtain ⟨rfl, hdropped⟩ := h.carries_forgotten hundisturbed hdrops histdrops happlied
    refine .inl ⟨fun frame hframe => ?_, Stash.carries_nil_iff.mp (hlast hdropped)⟩
    refine List.mem_append_left _ (List.mem_append_right _ ?_)
    exact List.mem_map_of_mem (f := fun frame => Event.dropFrame frame (.ok ())) hframe
  | @stuck applied rest frame e hsplit =>
    -- one is not back, and none is forgotten
    have hleaves : ∀ e' ∈ applied.map Isolation.broughtBack ++ [.applyFrame frame (.error e)],
        e'.LeavesFrames := by
      intro e' he'
      rcases List.mem_append.mp he' with he' | he'
      · exact leavesFrames_broughtBack he'
      · rw [List.mem_singleton.mp he']
        exact ⟨rfl, fun _ _ => Event.noConfusion⟩
    refine .inr ⟨⟨frame, e, ?_⟩, fun f answer hmem => ?_, ?_⟩
    · exact List.mem_append_left _ (List.mem_append_right _ (List.mem_singleton_self _))
    · rcases List.mem_append.mp hmem with hmem | hmem
      · exact (hleaves _ hmem).2 f answer rfl
      · exact (leavesFrames_written hwritten hmem).2 f answer rfl
    · exact hlast (h.carries_left hundisturbed hlint histback hleaves hheld)

omit hlint in
/-- What bringing everything back leaves of the stash, in whatever session an isolation ends whose frames
are held. -/
theorem restore_left {i : Isolation} {s : Session σ}
    (hheld : stash.Carries w (i.frames.map Frame.id) s.world) :
    ∃ es, (Isolation.restore r.versionControl i s).2.events = s.events ++ es ∧
      stash.Left i.frames (calls es) w (Isolation.restore r.versionControl i s).2.world := by
  -- no linter is called on the way back, so any will do for the record
  let idle : Linter σ := ⟨fun _ _ s => (.ok none, s), fun _ _ => false⟩
  obtain ⟨es, hes, hist, hback⟩ :=
    @Isolation.does_restore σ r.versionControl idle i s
  exact ⟨es, hes, h.back_left hundisturbed (fun _ _ s => Stash.Grows.refl s) hback hist.calls hheld⟩

/-- **What the course of a run leaves of the stash.** -/
theorem course_left {answer : Except RunError Snapshots} (hcourse : Snapshot.Course mode files es answer)
    (hist : History r.versionControl linter es w w') : stash.Left (recorded es) es w w' := by
  rcases hcourse.way_back with ⟨hnone, hhandles, -⟩ |
    ⟨front, back, merge, linted, d, rfl, rfl, -, hfront, -, hback⟩
  · -- nothing was set aside
    have hleaves : ∀ e ∈ es, e.LeavesFrames := by
      refine fun e he => ⟨hnone e he, ?_⟩
      rintro frame answer rfl
      exact hhandles _ he frame rfl
    have hcarries := h.carries_left hundisturbed hlint hist hleaves
      (Stash.carries_nil_iff.mpr (Stash.Grows.refl w))
    refine .inl ⟨fun frame hframe => ?_, Stash.carries_nil_iff.mp hcarries⟩
    rw [recorded_eq_nil hnone] at hframe
    cases hframe
  -- in front of the way back entries come in, and each of them is a recorded frame
  obtain ⟨v, histfront, histback⟩ := hist.split
  have hkept : ∀ frame answer, .dropFrame frame answer ∉ front :=
    fun frame answer hmem => hfront _ hmem frame rfl
  have hheld := h.carries_recorded hundisturbed hlint histfront hkept
    (Stash.carries_nil_iff.mpr (Stash.Grows.refl w))
  rw [List.nil_append] at hheld
  have hrecorded : recorded (front ++ back) = recorded front := by
    rw [recorded_append, recorded_eq_nil fun e he => (hback.handles he).1, List.append_nil]
  rw [hrecorded]
  rcases h.back_left hundisturbed hlint hback histback hheld with ⟨hdropped, hgrows⟩ |
    ⟨⟨frame, e, hstuck⟩, hnot, hcarries⟩
  · exact .inl ⟨fun frame hframe => List.mem_append_right _ (hdropped frame hframe), hgrows⟩
  · refine .inr ⟨⟨frame, e, List.mem_append_right _ hstuck⟩, fun f answer hmem => ?_, hcarries⟩
    rcases List.mem_append.mp hmem with hmem | hmem
    · exact hkept f answer hmem
    · exact hnot f answer hmem

/-- What linting both sides leaves of the stash, whatever comes of the linting. -/
theorem take_left (mode : Option String) (files : StagedFiles) (verbose : Bool) (s : Session σ) :
    ∃ es, (Snapshot.take r.versionControl linter mode files verbose s).2.events = s.events ++ es ∧
      stash.Left (recorded (calls es)) (calls es) s.world
        (Snapshot.take r.versionControl linter mode files verbose s).2.world := by
  obtain ⟨es, hes, hist, hruns⟩ :=
    Snapshot.does_take r.versionControl linter mode files verbose s
  refine ⟨es, hes, ?_⟩
  have histcalls := hist.calls
  rw [Snapshot.Runs] at hruns
  split at hruns
  · exact h.course_left hundisturbed hlint hruns histcalls
  · -- no file has a linter, and no call is made
    rw [hruns.1] at histcalls ⊢
    refine .inl ⟨fun frame hframe => absurd hframe List.not_mem_nil, ?_⟩
    rw [show _ = s.world from histcalls]
    exact Stash.Grows.refl _

omit hundisturbed hlint in
/-- **What the gate does to a stash that it shares with others.**

Forgetting a frame fails exactly if no entry has the frame's id, and then no entry goes. Else it succeeds,
and it removes that entry and keeps all others in order, wherever it stands, exactly if nobody pushed an
entry between the listing and the drop.

Of the frames under the gate's labels none is missed, and they stand in the order of the entries, each with
the id of an entry and the one label at the end of its subject. No other frame is found, exactly if no
entry has such blank space behind a label as reading its row takes away.

So if nobody pushes while the gate relies on what it saw, bringing everything back leaves the stash as it
was before the frames were made, with the entries on top that others pushed meanwhile. If it gets stuck,
the gate's own entries are there besides, all of them. The same holds of a whole run. -/
theorem shares_stash :
    (∀ frame s,
      (frame.id ∈ ids (stash.entries s) → (r.dropFrame frame s).1 = .ok () ∧
        (stash.Leaves s (r.dropFrame frame s).2 ((stash.entries s).filter fun e => e.id != frame.id) ↔
          stash.others (r.listed s) = stash.others s)) ∧
      (frame.id ∉ ids (stash.entries s) → (r.dropFrame frame s).1 = .error (notFound frame) ∧
        stash.Grows s (r.dropFrame frame s).2)) ∧
    (∀ s, ∃ frames, (r.heldFrames ownLabels s).1 = .ok frames ∧
      stash.Grows s (r.heldFrames ownLabels s).2 ∧
      (framesBorne ownLabels (stash.entries s)).Sublist frames ∧
      (frames = framesBorne ownLabels (stash.entries s) ↔
        ∀ newer e older, stash.entries s = newer ++ e :: older → ¬e.Veiled ownLabels older)) ∧
    (∀ (e : StashEntry) frame, e.frame? ownLabels = some frame ↔
      e.id = frame.id ∧ frame.label ∈ ownLabels ∧ StashEntry.Bears e.subject.toList frame.label) ∧
    (∀ subject, ¬(StashEntry.Bears subject unstagedLabel ∧ StashEntry.Bears subject stagedLabel)) ∧
    (r.Undisturbed stash → ∀ (i : Isolation) w (s : Session σ),
      stash.Carries w (i.frames.map Frame.id) s.world →
        ∃ es, (Isolation.restore r.versionControl i s).2.events = s.events ++ es ∧
          stash.Left i.frames (calls es) w (Isolation.restore r.versionControl i s).2.world) ∧
    (r.Undisturbed stash → ∀ linter : Linter σ,
      (∀ path mode s, stash.Grows s (linter.lint path mode s).2) →
      ∀ mode files verbose (s : Session σ),
        ∃ es, (Snapshot.take r.versionControl linter mode files verbose s).2.events = s.events ++ es ∧
          stash.Left (recorded (calls es)) (calls es) s.world
            (Snapshot.take r.versionControl linter mode files verbose s).2.world) := by
  have hsolid := StashEntry.endsSolid_ownLabels
  refine ⟨fun frame s => ⟨fun hfound => ?_, (h.dropFrame_answer frame s).2⟩, fun s => ?_,
    fun e frame => StashEntry.frame?_ownLabels_iff, StashEntry.not_bears_both,
    fun hundisturbed i w s hheld => h.restore_left hundisturbed hheld,
    fun hundisturbed linter hlint => h.take_left hundisturbed hlint⟩
  · exact ⟨(h.dropFrame_answer frame s).1 hfound, h.dropFrame_exact_iff hfound⟩
  · obtain ⟨hframes, hgrows⟩ := h.heldFrames_eq ownLabels s
    exact ⟨_, hframes, hgrows, StashEntry.framesBorne_sublist hsolid _,
      StashEntry.framesRead_eq_iff hsolid _⟩

end Repository.Keeps

/-! ## Runs on a shelf -/

namespace Shelf

/-- A shelf with one entry, which was there before. -/
def holding (subject : String) : Shelf where
  entries := [.ofLength 0 subject]
  size := 1
  bounded := fun e he => by
    rw [List.mem_singleton.mp he]
    exact (StashEntry.length_id_ofLength 0 subject).le
  distinct := List.pairwise_singleton _ _

/-- Others push an entry whenever changes are brought back. -/
def whileApplied (args : List String) : Bool := args.take 2 == ["stash", "apply"]

/-- And they push one whenever a file is linted. -/
def busyLinter : Linter Shelf where
  lint _ _ := fun f => (.ok (some {}), f.disturb)
  handles _ _ := true

/-- A run over one file among them. -/
def busyRun : Except RunError Snapshots × Session Shelf :=
  Snapshot.take (repository whileApplied).versionControl busyLinter none { modifiedOrCopied := ["a.js"] }
    false { world := holding "On main: mine" }

/-- Two entries of the gate come into the stash and go again, with four of others in between and on top:
what is left is the one that was there before, below those. -/
theorem shares_stash_busy :
    (repository whileApplied).Keeps stash ∧ (repository whileApplied).Undisturbed stash ∧
      (∀ path mode f, stash.Grows f (busyLinter.lint path mode f).2) ∧
      (recorded (calls busyRun.2.events)).map Frame.id = ["ee", "eeee"] ∧
      stash.Grows (holding "On main: mine") busyRun.2.world ∧
      busyRun.2.world.entries.map (·.subject)
        = ["On main: theirs", "On main: theirs", "On main: theirs", "On main: theirs",
          "On main: mine"] := by
  have hkeeps := repository_keeps whileApplied
  have hundisturbed : (repository whileApplied).Undisturbed stash :=
    repository_undisturbed (fun label keepIndex => by cases keepIndex <;> rfl) rfl
  have hlint : ∀ path mode f, stash.Grows f (busyLinter.lint path mode f).2 :=
    fun _ _ f => grows_disturb f
  have hrecorded : (recorded (calls busyRun.2.events)).map Frame.id = ["ee", "eeee"] := by
    decide +kernel
  refine ⟨hkeeps, hundisturbed, hlint, hrecorded, ?_, by decide +kernel⟩
  obtain ⟨-, -, -, -, -, hrun⟩ := hkeeps.shares_stash
  obtain ⟨es, hes, hleft⟩ := hrun hundisturbed busyLinter hlint none { modifiedOrCopied := ["a.js"] }
    false { world := holding "On main: mine" }
  rw [← busyRun] at hes hleft
  rw [← hes.trans (List.nil_append es)] at hleft
  rcases hleft with ⟨-, hgrows⟩ | ⟨-, -, hcarries⟩
  · exact hgrows
  · -- the entries are gone, so they are not held
    rw [hrecorded] at hcarries
    exact absurd (hcarries.present "ee" List.mem_cons_self) (by decide +kernel)

/-- The subject of an entry that somebody else pushed, with a blank behind what would be a label. -/
def blankSubject : String := "On main: difflint: unstaged changes\u00a0"

/-- **An entry that is not under a label, and is found under it.** It is the oldest one, and the blank
behind the label goes with the end of the listing. With an older entry below it, it is not found. -/
theorem blank_behind_label_found :
    (repository fun _ => false).Keeps stash ∧
      (∀ label ∈ ownLabels, ¬StashEntry.Bears blankSubject.toList label) ∧
      (holding blankSubject).entries.map (·.subject) = [blankSubject] ∧
      ((repository fun _ => false).heldFrames ownLabels (holding blankSubject)).1
        = .ok [⟨"e", unstagedLabel⟩] ∧
      ((repository fun _ => false).heldFrames ownLabels ((holding "On main: mine").push blankSubject)).1
        = .ok [] := by
  have hkeeps := repository_keeps fun _ => false
  refine ⟨hkeeps, by decide +kernel, by decide +kernel, ?_, ?_⟩
  · rw [(hkeeps.heldFrames_eq ownLabels _).1]
    decide +kernel
  · rw [(hkeeps.heldFrames_eq ownLabels _).1]
    decide +kernel

/-- The gate's frame in a stash where somebody pushes an entry between the listing and the drop. -/
def raced : Except VcsError Unit × Shelf :=
  (repository (· == Repository.idArgs)).dropFrame ⟨"e", unstagedLabel⟩
    (holding "On main: difflint: unstaged changes")

/-- Theirs is dropped, the gate's own stays, and the answer is a success. -/
example : raced.1 = .ok () ∧ raced.2.others.map (·.subject) = ["On main: theirs"] ∧
    raced.2.entries.map (·.subject) = ["On main: difflint: unstaged changes"] := by
  decide +kernel

end Shelf

end LintGate
