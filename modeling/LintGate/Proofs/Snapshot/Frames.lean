/-
No uncommitted work is lost.

From the first save on, the uncommitted work is in the frames that the version control
recorded, so what has to be shown is that every one of them has a known end. There are
two. Either everything was reapplied, and then each frame was forgotten once, after the
last reapplication (`Returned`). Or something was not, and then no frame at all was
forgotten, and the failure the run ends in names every frame: those that are back as
kept, the others as stranded (`Kept`).

A frame counts as recorded when its save says so, also when that save failed. The
statement is read off the course of the calls: inside the isolation frames are only
recorded, on the way back they are only reapplied and forgotten, and the frames that
the way back is given are exactly the recorded ones. That ids are fresh is needed in
one place: two records of one frame would be forgotten twice.
-/
import LintGate.Rehearsal
import LintGate.Proofs.Snapshot.Course

set_option autoImplicit false

namespace LintGate

/-! ## Frames in a record -/

/-- The frame that a call recorded, if it did. -/
def Event.recorded? : Event → Option Frame
  | .saveFrame _ _ (.ok frame) => frame
  | .saveFrame _ _ (.error e) => e.held
  | _ => none

/-- The frames that some calls recorded, in order. -/
def recorded (es : List Event) : List Frame := es.filterMap Event.recorded?

/-- Whether a call is one that sets changes aside under a label. -/
def Event.savesUnder (label : String) : Event → Bool
  | .saveFrame l _ _ => l == label
  | _ => false

/-- The frames recorded by the calls under one label. -/
def recordedUnder (label : String) (es : List Event) : List Frame :=
  recorded (es.filter (Event.savesUnder label))

/-- A call that reapplies or forgets a frame. -/
def Event.Handles (frame : Frame) : Event → Prop
  | .applyFrame f _ => f = frame
  | .dropFrame f _ => f = frame
  | _ => False

/-- Every recorded frame was reapplied, and this one was forgotten, once and after the last
reapplication. -/
def Returned (es : List Event) (frame : Frame) : Prop :=
  (∀ f ∈ recorded es, .applyFrame f (.ok ()) ∈ es) ∧
  ∃ before answer after, es = before ++ .dropFrame frame answer :: after ∧
    (∀ a, .dropFrame frame a ∉ before) ∧ (∀ a, .dropFrame frame a ∉ after) ∧
    ∀ f a, .applyFrame f a ∉ after

/-- No frame was forgotten, and the failure the run ends in accounts for this one: it is stranded
unless it was reapplied, and then it is named as kept. -/
def Kept (es : List Event) (r : Except RunError Snapshots) (frame : Frame) : Prop :=
  (∀ f a, .dropFrame f a ∉ es) ∧
  ∃ d, r = .error (.desync d) ∧ (frame ∈ d.stranded ↔ .applyFrame frame (.ok ()) ∉ es) ∧
    (.applyFrame frame (.ok ()) ∈ es → Isolation.keptText frame ∈ d.failures)

/-! ## What a record says about frames -/

@[simp] theorem recorded_nil : recorded [] = [] := rfl

@[simp] theorem recordedUnder_nil (label : String) : recordedUnder label [] = [] := rfl

@[simp] theorem recorded_append (es es' : List Event) :
    recorded (es ++ es') = recorded es ++ recorded es' :=
  List.filterMap_append

@[simp] theorem recorded_cons (e : Event) (es : List Event) :
    recorded (e :: es) = e.recorded?.toList ++ recorded es := by
  rw [recorded, List.filterMap_cons]
  cases e.recorded? <;> rfl

theorem recorded_eq_nil {es : List Event} (h : ∀ e ∈ es, e.recorded? = none) : recorded es = [] :=
  List.filterMap_eq_nil_iff.mpr h

@[simp] theorem recordedUnder_append (label : String) (es es' : List Event) :
    recordedUnder label (es ++ es') = recordedUnder label es ++ recordedUnder label es' := by
  rw [recordedUnder, List.filter_append, recorded_append]
  rfl

@[simp] theorem recordedUnder_cons (label : String) (e : Event) (es : List Event) :
    recordedUnder label (e :: es)
      = (if e.savesUnder label then e.recorded?.toList else []) ++ recordedUnder label es := by
  rw [recordedUnder, List.filter_cons]
  split
  · exact recorded_cons e _
  · rfl

theorem recordedUnder_eq_nil {label : String} {es : List Event} (h : ∀ e ∈ es, e.recorded? = none) :
    recordedUnder label es = [] :=
  recorded_eq_nil fun e he => h e (List.mem_of_mem_filter he)

/-- A call that only asks records no frame. -/
theorem Event.Asks.recorded?_eq_none {e : Event} (h : e.Asks) : e.recorded? = none := by
  cases h <;> rfl

theorem Event.Asks.not_handles {e : Event} (h : e.Asks) (frame : Frame) : ¬e.Handles frame := by
  cases h <;> exact id

/-- A call that does not stand in the first part of a list stands in the second. -/
theorem split_behind {α : Type} {front back before after : List α} {e : α}
    (h : front ++ back = before ++ e :: after) (he : e ∉ front) :
    ∃ between, before = front ++ between ∧ back = between ++ e :: after := by
  rcases List.append_eq_append_iff.mp h with ⟨between, hbefore, hback⟩ | ⟨rest, hfront, hafter⟩
  · exact ⟨between, hbefore, hback⟩
  · cases rest with
    | nil =>
      refine ⟨[], ?_, hafter.symm⟩
      rw [hfront, List.append_nil, List.append_nil]
    | cons x rest =>
      obtain ⟨rfl, -⟩ := List.cons.inj hafter
      rw [hfront] at he
      exact absurd (List.mem_append_right _ List.mem_cons_self) he

namespace Isolation

/-- The way back records no frame, and reapplies and forgets only those it was given. -/
theorem Restored.handles {merge : Option MergeState} {frames : List Frame} {es : List Event}
    {d : Desync} {e : Event} (h : Restored merge frames es d) (he : e ∈ es) :
    e.recorded? = none ∧ ∀ frame, e.Handles frame → frame ∈ frames := by
  obtain ⟨hback, hwritten⟩ := h
  rcases List.mem_append.mp he with he | he
  · cases hback with
    | all hdrops =>
      rcases List.mem_append.mp he with he | he
      · obtain ⟨frame, hframe, rfl⟩ := List.mem_map.mp he
        exact ⟨rfl, by rintro _ rfl; exact hframe⟩
      · obtain ⟨frame, hframe, answer, rfl⟩ := exists_of_mem_forall₂ hdrops he
        exact ⟨rfl, by rintro _ rfl; exact hframe⟩
    | stuck h =>
      rw [h]
      rcases List.mem_append.mp he with he | he
      · obtain ⟨frame, hframe, rfl⟩ := List.mem_map.mp he
        exact ⟨rfl, by rintro _ rfl; exact List.mem_append_left _ hframe⟩
      · rw [List.mem_singleton] at he
        subst he
        exact ⟨rfl, by rintro _ rfl; exact List.mem_append_right _ List.mem_cons_self⟩
  · cases hwritten with
    | none => cases he
    | written =>
      rw [List.mem_singleton] at he
      subst he
      exact ⟨rfl, fun frame hframe => hframe.elim⟩
    | lost =>
      rw [List.mem_singleton] at he
      subst he
      exact ⟨rfl, fun frame hframe => hframe.elim⟩

/-- A frame among distinct ones is forgotten once. -/
theorem Forgotten.split {frames : List Frame} {es : List Event} {frame : Frame}
    (h : Forgotten frames es) (hdistinct : frames.Nodup) (hframe : frame ∈ frames) :
    ∃ before answer after, es = before ++ .dropFrame frame answer :: after ∧
      (∀ a, .dropFrame frame a ∉ before) ∧ ∀ a, .dropFrame frame a ∉ after := by
  induction h with
  | nil => cases hframe
  | @cons first e rest es hfirst hrest ih =>
    obtain ⟨answer, rfl⟩ := hfirst
    obtain ⟨hnot, hdistinct⟩ := List.nodup_cons.mp hdistinct
    rcases List.mem_cons.mp hframe with rfl | hframe'
    · refine ⟨[], answer, es, rfl, fun a => List.not_mem_nil, fun a ha => ?_⟩
      obtain ⟨f, hf, answer', hdrop⟩ := exists_of_mem_forall₂ hrest ha
      obtain ⟨rfl, -⟩ := Event.dropFrame.inj hdrop
      exact hnot hf
    · obtain ⟨before, answer', after, rfl, hbefore, hafter⟩ := ih hdistinct hframe'
      refine ⟨_ :: before, answer', after, rfl, fun a ha => ?_, hafter⟩
      rcases List.mem_cons.mp ha with hdrop | ha
      · obtain ⟨rfl, -⟩ := Event.dropFrame.inj hdrop
        exact hnot hframe'
      · exact hbefore a ha

end Isolation

/-! ## The two ends of a frame -/

namespace Isolation

variable {merge : Option MergeState} {frames : List Frame} {front back : List Event} {d : Desync}
  {frame : Frame}

/-- Writing the record of a merge handles no frame. -/
theorem MergeRestored.not_handles {es : List Event} {failures : List String} {e : Event}
    (h : MergeRestored merge es failures) (he : e ∈ es) (f : Frame) : ¬e.Handles f := by
  cases h with
  | none => cases he
  | written =>
    rw [List.mem_singleton.mp he]
    exact id
  | lost =>
    rw [List.mem_singleton.mp he]
    exact id

/-- When all frames are back, each of them is returned. -/
theorem returned_of_all {drops written : List Event} {failures : List String}
    (hfront : ∀ e ∈ front, ∀ f, ¬e.Handles f) (hfrontframes : recorded front = frames)
    (hdistinct : frames.Nodup) (hdrops : Forgotten frames drops)
    (hwritten : MergeRestored merge written failures) (hframe : frame ∈ frames) :
    Returned (front ++ (frames.map broughtBack ++ drops ++ written)) frame := by
  have hback : Restored merge frames (frames.map broughtBack ++ drops ++ written)
      { ({} : Desync) with failures := [] ++ failures } := .intro (.all hdrops) hwritten
  obtain ⟨before, answer, after, rfl, hbefore, hafter⟩ := hdrops.split hdistinct hframe
  refine ⟨fun f hf => ?_, front ++ (frames.map broughtBack ++ before), answer, after ++ written,
    ?_, fun a ha => ?_, fun a ha => ?_, fun f a ha => ?_⟩
  · -- the recorded frames are those of the first part, and all of them were reapplied
    rw [recorded_append, hfrontframes, recorded_eq_nil fun e he => (hback.handles he).1,
      List.append_nil] at hf
    have hmem : broughtBack f ∈ frames.map broughtBack := List.mem_map_of_mem hf
    simp only [List.mem_append]
    exact .inr (.inl (.inl hmem))
  · simp only [List.append_assoc, List.cons_append]
  · -- the frame was not forgotten before
    simp only [List.mem_append] at ha
    rcases ha with ha | ha | ha
    · exact hfront _ ha frame rfl
    · obtain ⟨f, -, hf⟩ := List.mem_map.mp ha
      cases hf
    · exact hbefore a ha
  · -- nor is it forgotten again
    rcases List.mem_append.mp ha with ha | ha
    · exact hafter a ha
    · exact hwritten.not_handles ha frame rfl
  · -- and behind a forgotten frame there are only others, and the record of the merge
    rcases List.mem_append.mp ha with ha | ha
    · obtain ⟨f', -, answer', hdrop⟩ := exists_of_mem_forall₂ hdrops
        (List.mem_append_right _ (List.mem_cons_of_mem _ ha))
      cases hdrop
    · exact hwritten.not_handles ha f rfl

/-- When a frame is stuck, each of them is kept. -/
theorem kept_of_stuck {applied rest : List Frame} {stuck : Frame} {e : VcsError}
    {written : List Event} {failures : List String} (linted : Except RunError Snapshots)
    (hfront : ∀ e ∈ front, ∀ f, ¬e.Handles f) (hdistinct : frames.Nodup)
    (h : frames = applied ++ stuck :: rest) (hwritten : MergeRestored merge written failures)
    (hframe : frame ∈ frames) :
    Kept (front ++ (applied.map broughtBack ++ [.applyFrame stuck (.error e)] ++ written))
      (Snapshot.settled linted
        ⟨stuckText stuck e :: applied.map keptText ++ failures, stuck :: rest⟩) frame := by
  -- the successful reapplications are those of `applied`, wherever they are looked for
  have hback : ∀ f, (.applyFrame f (.ok ()) ∈
      front ++ (applied.map broughtBack ++ [.applyFrame stuck (.error e)] ++ written)) ↔
      f ∈ applied := by
    intro f
    simp only [List.mem_append, List.mem_map, List.mem_singleton]
    constructor
    · rintro (hf | (⟨f', hf', heq⟩ | heq) | hf)
      · exact absurd rfl (hfront _ hf f)
      · obtain ⟨rfl, -⟩ := Event.applyFrame.inj heq
        exact hf'
      · cases heq
      · exact absurd rfl (hwritten.not_handles hf f)
    · exact fun hf => .inr (.inl (.inl ⟨f, hf, rfl⟩))
  refine ⟨fun f a ha => ?_, _, rfl, ?_, fun happlied => ?_⟩
  · -- no frame is forgotten
    simp only [List.mem_append, List.mem_map, List.mem_singleton] at ha
    rcases ha with ha | (⟨f', -, heq⟩ | heq) | ha
    · exact hfront _ ha f rfl
    · cases heq
    · cases heq
    · exact hwritten.not_handles ha f rfl
  · -- ids being fresh, a frame is not reapplied and stranded at once
    rw [hback]
    rw [h] at hframe hdistinct
    constructor
    · exact fun hstranded happlied =>
        (List.nodup_append.mp hdistinct).2.2 frame happlied frame hstranded rfl
    · exact fun hnot => (List.mem_append.mp hframe).resolve_left hnot
  · rw [hback] at happlied
    exact List.mem_cons_of_mem _ (List.mem_append_left _ (List.mem_map_of_mem happlied))

end Isolation

namespace Snapshot

variable {mode : Option String}

theorem recorded?_lint {es : List Event} (h : ∀ e ∈ es, ∃ path answer, e = .lint path mode answer) :
    ∀ e ∈ es, e.recorded? = none := by
  intro e he
  obtain ⟨path, answer, rfl⟩ := h e he
  rfl

/-- The frames held at the end of the isolation are those recorded in it, each under its label. -/
theorem Inside.recorded_eq {files : StagedFiles} {es : List Event} {unstaged staged : Option Frame}
    {linted : Except RunError Snapshots} (h : Inside mode files es unstaged staged linted) :
    recorded es = unstaged.toList ++ staged.toList ∧
      recordedUnder unstagedLabel es = unstaged.toList ∧
      recordedUnder stagedLabel es = staged.toList := by
  have hlabels : (unstagedLabel == stagedLabel) = false := by decide
  have hlabels' : (stagedLabel == unstagedLabel) = false := by decide
  cases h with
  | unstagedRefused => simp [Event.recorded?, Event.savesUnder, hlabels]
  | committedAborted h =>
    have hes := recorded?_lint fun e he => h.exists_of_mem he
    simp [recorded_eq_nil hes, recordedUnder_eq_nil hes, Event.recorded?, Event.savesUnder, hlabels]
  | stagedRefused h =>
    have hes := recorded?_lint fun e he => h.exists_of_mem he
    simp [recorded_eq_nil hes, recordedUnder_eq_nil hes, Event.recorded?, Event.savesUnder, hlabels,
      hlabels']
  | baselineAborted h h' =>
    have hes := recorded?_lint fun e he => h.exists_of_mem he
    have hes' := recorded?_lint fun e he => h'.exists_of_mem he
    simp [recorded_eq_nil hes, recordedUnder_eq_nil hes, recorded_eq_nil hes',
      recordedUnder_eq_nil hes', Event.recorded?, Event.savesUnder, hlabels, hlabels']
  | both h h' =>
    have hes := recorded?_lint fun e he => h.exists_of_mem he
    have hes' := recorded?_lint fun e he => h'.exists_of_mem he
    simp [recorded_eq_nil hes, recordedUnder_eq_nil hes, recorded_eq_nil hes',
      recordedUnder_eq_nil hes', Event.recorded?, Event.savesUnder, hlabels, hlabels']

theorem Inside.not_handles {files : StagedFiles} {es : List Event} {unstaged staged : Option Frame}
    {linted : Except RunError Snapshots} {e : Event} (h : Inside mode files es unstaged staged linted)
    (he : e ∈ es) (frame : Frame) : ¬e.Handles frame := by
  rcases h.save_or_lint he with ⟨label, keepIndex, answer, rfl⟩ | ⟨path, answer, rfl⟩
  · exact id
  · exact id

/-- A course either records no frame and handles none, or it is an isolation: a first part that
handles no frame, and the way back with the frames that part recorded. -/
theorem Course.way_back {files : StagedFiles} {es : List Event} {r : Except RunError Snapshots}
    (h : Course mode files es r) :
    ((∀ e ∈ es, e.recorded? = none) ∧ (∀ e ∈ es, ∀ frame, ¬e.Handles frame) ∧
      ∀ d, r ≠ .error (.desync d)) ∨
    ∃ front back merge linted d, es = front ++ back ∧ r = settled linted d ∧
      (∀ d, linted ≠ .error (.desync d)) ∧
      (∀ e ∈ front, ∀ frame, ¬e.Handles frame) ∧
      recorded front = recordedUnder unstagedLabel front ++ recordedUnder stagedLabel front ∧
      Isolation.Restored merge (recorded front) back d := by
  rcases h.asks_or_isolated with ⟨hasks, hne⟩ |
    ⟨merge, inside, back, unstaged, staged, linted, d, hinside, hback, rfl, rfl⟩
  · exact .inl ⟨fun e he => (hasks e he).recorded?_eq_none, fun e he => (hasks e he).not_handles, hne⟩
  obtain ⟨hall, hunstaged, hstaged⟩ := hinside.recorded_eq
  refine .inr ⟨.hasCommits (.ok true) :: .readMergeState (.ok merge) :: inside, back, merge, linted,
    d, rfl, rfl, hinside.ne_desync, fun e he frame => ?_, ?_, ?_⟩
  · rcases List.mem_cons.mp he with rfl | he
    · exact id
    rcases List.mem_cons.mp he with rfl | he
    · exact id
    · exact hinside.not_handles he frame
  · simp [Event.recorded?, Event.savesUnder, hall, hunstaged, hstaged]
  · simpa [Event.recorded?, hall] using hback

/-- A recorded frame has exactly one of the two ends. -/
theorem Course.returned_xor_kept {files : StagedFiles} {es : List Event}
    {r : Except RunError Snapshots} {frame : Frame} (h : Course mode files es r)
    (hdistinct : (recorded es).Nodup) (hframe : frame ∈ recorded es) :
    Xor (Returned es frame) (Kept es r frame) := by
  have hexcl : Returned es frame → ¬Kept es r frame := by
    rintro ⟨-, before, answer, after, rfl, -⟩ ⟨hnone, -⟩
    exact hnone frame answer (List.mem_append_right _ List.mem_cons_self)
  rcases h.way_back with ⟨hnone, -⟩ | ⟨front, back, merge, linted, d, rfl, rfl, -, hfront, -, hback⟩
  · rw [recorded_eq_nil hnone] at hframe
    cases hframe
  rw [recorded_append, recorded_eq_nil fun e he => (hback.handles he).1, List.append_nil]
    at hdistinct hframe
  obtain ⟨hframes, hwritten⟩ := hback
  cases hframes with
  | all hdrops =>
    have hreturned := Isolation.returned_of_all hfront rfl hdistinct hdrops hwritten hframe
    exact .inl ⟨hreturned, hexcl hreturned⟩
  | @stuck applied rest stuck e hsplit =>
    have hkept := Isolation.kept_of_stuck (e := e) linted hfront hdistinct hsplit hwritten
      hframe
    exact .inr ⟨hkept, fun hreturned => hexcl hreturned hkept⟩

/-- Stranded frames are listed in the order in which they were recorded, unstaged changes first. -/
theorem Course.stranded_sublist {files : StagedFiles} {es : List Event} {d : Desync}
    (h : Course mode files es (.error (.desync d))) :
    d.stranded.Sublist (recordedUnder unstagedLabel es ++ recordedUnder stagedLabel es) := by
  rcases h.way_back with ⟨-, -, hne⟩ |
    ⟨front, back, merge, linted, d', rfl, hr, hlinted, -, horder, hback⟩
  · exact absurd rfl (hne d)
  have hnone := fun e he => (hback.handles (e := e) he).1
  rw [recordedUnder_append, recordedUnder_append, recordedUnder_eq_nil hnone,
    recordedUnder_eq_nil hnone, List.append_nil, List.append_nil, ← horder]
  -- the report is that of the way back, since what came of the linting is no such report
  rw [settled] at hr
  split at hr
  · exact absurd hr.symm (hlinted d)
  obtain rfl := RunError.desync.inj (Except.error.inj hr)
  obtain ⟨hframes, -⟩ := hback
  cases hframes with
  | all => exact List.nil_sublist _
  | @stuck applied rest stuck e hsplit =>
    rw [hsplit]
    exact List.sublist_append_right _ _

/-- No frame is reapplied or forgotten that was not recorded before. -/
theorem Course.handles_recorded {files : StagedFiles} {before after : List Event} {e : Event}
    {r : Except RunError Snapshots} {frame : Frame}
    (h : Course mode files (before ++ e :: after) r) (he : e.Handles frame) :
    frame ∈ recorded before := by
  rcases h.way_back with ⟨-, hnone, -⟩ | ⟨front, back, merge, linted, d, hes, -, -, hfront, -, hback⟩
  · exact absurd he (hnone e (List.mem_append_right _ List.mem_cons_self) frame)
  obtain ⟨between, rfl, rfl⟩ := split_behind hes.symm fun hmem => hfront e hmem frame he
  rw [recorded_append]
  refine List.mem_append_left _ ?_
  exact (hback.handles (List.mem_append_right _ List.mem_cons_self)).2 frame he

/-! ## The statement for a session -/

variable {σ : Type} {vcs : VersionControl σ} {linter : Linter σ}

/-- A plan in which the staged changes cannot be brought back. -/
def stuckPlan : Rehearsal.Plan := { failing := [("apply " ++ stagedLabel, "conflict")] }

/-- The scripted linter of that plan, which takes every file. -/
def stuckLinter : Linter Rehearsal.Stage :=
  { Rehearsal.linter stuckPlan with handles := fun _ _ => true }

/-- A run by that plan, over one modified file. -/
def stuckRun : Except RunError Snapshots × Session Rehearsal.Stage :=
  take Rehearsal.versionControl stuckLinter none { modifiedOrCopied := ["a.js"] } false
    { world := { plan := stuckPlan } }

end Snapshot

end LintGate
