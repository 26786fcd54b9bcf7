/-
The life of an isolation, whatever is done in it.

A run sets each side aside once. The isolation does not insist on that: its steps may
come in any order and again, also after one of them failed, and its owner may release it
or let go of it. There is one slot for each side, and every attempt to set that side
aside writes it, with nothing when nothing was recorded. So what the way back is given
are the frames of the *last* attempts (`does_performAll_slots`), and not all that were
recorded.

That is the exact line. A frame of a last attempt is back and was to be forgotten, or it
is still there and the report names it (`Restored.putBack_or_named`). A frame of an
earlier one is still there as well, but nothing is done about it and nobody is told
(`Restored.leaves_behind`). It takes no more than a second attempt that fails.

Frames are told apart by their ids, so the ids are assumed to be fresh. What the version
control still holds is a view of its state, with the one assumption that forgetting a
frame is the only way for it to go.
-/
import LintGate.Proofs.Snapshot.Merge
import Mathlib.Data.List.Induction
import Mathlib.Data.List.Nodup

set_option autoImplicit false

namespace LintGate

/-! ## The frames that a version control holds -/

/-- How the frames of a version control change: one that was recorded is there, and it stays until
a frame of its id is forgotten. -/
structure FrameView {σ : Type} (vcs : VersionControl σ) (linter : Linter σ) (view : σ → List Frame) :
    Prop where
  /-- Recording a frame puts it there, also when the save fails afterwards. -/
  recorded {e : Event} {frame : Frame} {w w' : σ} (h : e.Happened vcs linter w w')
    (hrecorded : e.recorded? = some frame) : frame ∈ view w'
  /-- No call but the one that forgets a frame takes it away. -/
  kept {e : Event} {frame : Frame} {w w' : σ} (h : e.Happened vcs linter w w')
    (hdrop : ∀ f answer, e = .dropFrame f answer → f.id ≠ frame.id) (hw : frame ∈ view w) :
    frame ∈ view w'

section View

variable {σ : Type} {vcs : VersionControl σ} {linter : Linter σ} {view : σ → List Frame}
  {es : List Event} {frame : Frame} {w w' : σ}

theorem FrameView.stays (hview : FrameView vcs linter view) (hist : History vcs linter es w w')
    (hdrop : ∀ f answer, .dropFrame f answer ∈ es → f.id ≠ frame.id) (hw : frame ∈ view w) :
    frame ∈ view w' :=
  hist.keeps (P := fun v => frame ∈ view v)
    (fun _ he _ _ hstep hv => hview.kept hstep (fun f answer heq => hdrop f answer (heq ▸ he)) hv) hw

/-- A frame that was recorded is there at the end, unless one of its id was forgotten. -/
theorem FrameView.mem_of_recorded (hview : FrameView vcs linter view)
    (hist : History vcs linter es w w') (hframe : frame ∈ LintGate.recorded es)
    (hdrop : ∀ f answer, .dropFrame f answer ∈ es → f.id ≠ frame.id) : frame ∈ view w' := by
  obtain ⟨e, he, hrecorded⟩ := List.mem_filterMap.mp hframe
  obtain ⟨before, after, rfl⟩ := List.append_of_mem he
  obtain ⟨v, -, u, hstep, hafter⟩ := hist.split
  refine hview.stays hafter (fun f answer hmem => hdrop f answer ?_) (hview.recorded hstep hrecorded)
  exact List.mem_append_right _ (List.mem_cons_of_mem _ hmem)

end View

namespace Isolation

open Act

/-! ## What stands in a slot -/

/-- The frame in the slot of a side. -/
def slot (i : Isolation) : Side → Option Frame
  | .unstaged => i.unstaged
  | .staged => i.staged

/-- Setting a side aside writes the slot of that side. -/
theorem slot_hold (i : Isolation) (side other : Side) (frame : Option Frame) (phase : Phase) :
    (i.hold side frame phase).slot other = if side = other then frame else i.slot other := by
  cases side <;> cases other <;> rfl

/-- The slot of a side after a call: an attempt to set the side aside writes it. -/
def slotAfter (side : Side) (frame : Option Frame) (e : Event) : Option Frame :=
  if e.savesUnder side.label then e.recorded? else frame

/-- What the last attempt to set a side aside recorded. -/
def lastHeld (side : Side) (es : List Event) : Option Frame :=
  (es.filter (Event.savesUnder side.label)).getLast?.bind Event.recorded?

/-- From an empty slot, any calls leave what the last attempt recorded. -/
theorem foldl_slotAfter (side : Side) (es : List Event) :
    es.foldl (slotAfter side) none = lastHeld side es := by
  induction es using List.reverseRecOn with
  | nil => rfl
  | append_singleton es e ih =>
    rw [List.foldl_append, ih]
    unfold lastHeld
    rw [List.filter_append]
    by_cases hsaves : e.savesUnder side.label = true
    · rw [List.filter_cons_of_pos hsaves, List.filter_nil, List.getLast?_concat]
      exact if_pos hsaves
    · rw [List.filter_cons_of_neg hsaves, List.filter_nil, List.append_nil]
      exact if_neg hsaves

theorem mem_recorded_of_lastHeld {side : Side} {es : List Event} {frame : Frame}
    (h : lastHeld side es = some frame) : frame ∈ recorded es := by
  obtain ⟨e, hlast, hrecorded⟩ := Option.bind_eq_some_iff.mp h
  have he : e ∈ es := List.mem_of_mem_filter (List.mem_of_getLast? hlast)
  exact List.mem_filterMap.mpr ⟨e, he, hrecorded⟩

/-- The frames of the last attempts, in the order of the way back. -/
def lastFrames (es : List Event) : List Frame :=
  (lastHeld .unstaged es).toList ++ (lastHeld .staged es).toList

theorem mem_lastFrames {es : List Event} {frame : Frame} :
    frame ∈ lastFrames es ↔ ∃ side, lastHeld side es = some frame := by
  rw [lastFrames, List.mem_append, Option.mem_toList, Option.mem_toList]
  constructor
  · rintro (h | h)
    · exact ⟨.unstaged, h⟩
    · exact ⟨.staged, h⟩
  · rintro ⟨side, h⟩
    cases side with
    | unstaged => exact .inl h
    | staged => exact .inr h

/-! ## The steps and their calls -/

/-- The one call that a step makes. -/
def Step.Makes : Step → Event → Prop
  | .setAside side, e => ∃ answer, e = .saveFrame side.label side.keepsIndex answer
  | .lint path mode, e => ∃ answer, e = .lint path mode answer

theorem Step.Makes.not_handles {step : Step} {e : Event} (h : step.Makes e) (frame : Frame) :
    ¬e.Handles frame := by
  cases step with
  | setAside side =>
    obtain ⟨answer, rfl⟩ := h
    exact id
  | lint path mode =>
    obtain ⟨answer, rfl⟩ := h
    exact id

section Steps

variable {σ : Type} {vcs : VersionControl σ} {linter : Linter σ}

theorem savesUnder_label (side other : Side) (answer : Except SaveError (Option Frame)) :
    (Event.saveFrame side.label side.keepsIndex answer).savesUnder other.label
      = decide (side = other) := by
  cases side <;> cases other <;> rfl

/-- A step makes its call, and leaves in each slot what the call says. -/
theorem does_perform_slots (step : Step) (i : Isolation) :
    Does vcs linter (step.perform vcs linter i) fun es i' =>
      ∃ e, calls es = [e] ∧ step.Makes e ∧ ∀ side, i'.slot side = slotAfter side (i.slot side) e := by
  cases step with
  | setAside side =>
    refine Does.bind (does_isolate side i) ?_
    rintro es ⟨answer, i'⟩ h
    refine does_pure ?_
    rw [List.append_nil]
    generalize calls es = cs at h
    cases h with
    | done =>
      refine ⟨_, rfl, ⟨_, rfl⟩, fun other => ?_⟩
      simp only [slot_hold, slotAfter, savesUnder_label, decide_eq_true_eq]
      rfl
    | refused =>
      refine ⟨_, rfl, ⟨_, rfl⟩, fun other => ?_⟩
      simp only [slot_hold, slotAfter, savesUnder_label, decide_eq_true_eq]
      rfl
  | lint path mode =>
    refine Does.bind (Linter.does_run path mode) ?_
    rintro _ answer rfl
    exact does_pure ⟨_, rfl, ⟨_, rfl⟩, fun _ => rfl⟩

/-- And so do any steps, one after the other. -/
theorem does_performAll_slots (steps : List Step) (i : Isolation) :
    Does vcs linter (performAll vcs linter i steps) fun es i' =>
      List.Forall₂ Step.Makes steps (calls es) ∧
        ∀ side, i'.slot side = (calls es).foldl (slotAfter side) (i.slot side) := by
  induction steps generalizing i with
  | nil => exact does_pure ⟨.nil, fun _ => rfl⟩
  | cons step rest ih =>
    refine Does.bind (does_perform_slots step i) fun es i₁ ⟨e, hes, hmakes, hslot⟩ => ?_
    refine (ih i₁).mono fun es' i₂ ⟨hall, hslots⟩ => ?_
    rw [calls_append, hes, List.singleton_append]
    exact ⟨.cons hmakes hall, fun side => by rw [hslots, hslot, List.foldl_cons]⟩

end Steps

/-! ## What the report says of a frame -/

/-- What is told of a frame that is kept tells its id. -/
theorem keptText_inj {f frame : Frame} (h : keptText f = keptText frame) : f.id = frame.id := by
  have hlists := congrArg String.toList h
  simp only [keptText, String.toList_append] at hlists
  exact String.toList_injective (List.append_cancel_left (List.append_cancel_right hlists))

/-- And no other failure to restore reads like that. -/
theorem keptText_ne_restore {frame : Frame} {phase : Phase} {rest : String}
    (hphase : phase = .restoreUnstaged ∨ phase = .restoreStaged ∨ phase = .restoreMergeState) :
    keptText frame ≠ phase.text ++ ": " ++ rest := by
  intro h
  have hfirst := congrArg (fun s => s.toList.head?) h
  rcases hphase with rfl | rfl | rfl <;>
    simp [keptText, Phase.text, String.toList_append] at hfirst

theorem keptText_ne_stuckText (frame stuck : Frame) (e : VcsError) :
    keptText frame ≠ stuckText stuck e := by
  refine keptText_ne_restore ?_
  unfold restorePhase
  split
  · exact .inl rfl
  · exact .inr (.inl rfl)

/-- A report names a frame as stranded, or as kept. -/
def Names (d : Desync) (frame : Frame) : Prop := frame ∈ d.stranded ∨ keptText frame ∈ d.failures

variable {merge : Option MergeState} {frames : List Frame} {back : List Event} {d : Desync}
  {frame : Frame}

theorem MergeRestored.keptText_not_mem {failures : List String}
    (h : MergeRestored merge back failures) : keptText frame ∉ failures := by
  intro hmem
  cases h with
  | none => cases hmem
  | written => cases hmem
  | lost => exact keptText_ne_restore (.inr (.inr rfl)) (List.mem_singleton.mp hmem)

/-- The report of the way back names frames it was given, and no other. -/
theorem Restored.exists_of_names (h : Restored merge frames back d) (hnames : Names d frame) :
    ∃ f ∈ frames, f.id = frame.id := by
  obtain ⟨hback, hwritten⟩ := h
  cases hback with
  | all =>
    rcases hnames with hstranded | htext
    · cases hstranded
    · exact absurd htext hwritten.keptText_not_mem
  | @stuck applied rest stuck e hsplit =>
    rw [hsplit]
    rcases hnames with hstranded | htext
    · exact ⟨frame, List.mem_append_right _ hstranded, rfl⟩
    rcases List.mem_append.mp htext with htext | htext
    · rcases List.mem_cons.mp htext with hstuck | hkept
      · exact absurd hstuck (keptText_ne_stuckText _ _ _)
      · obtain ⟨f, hf, htext⟩ := List.mem_map.mp hkept
        exact ⟨f, List.mem_append_left _ hf, keptText_inj htext⟩
    · exact absurd htext hwritten.keptText_not_mem

/-- What is known of a frame at the end of the way back: it is back, and it was tried to forget it. -/
def PutBack (back : List Event) (frame : Frame) : Prop :=
  .applyFrame frame (.ok ()) ∈ back ∧ ∃ answer, .dropFrame frame answer ∈ back

/-- A frame that the way back is given is put back, or no frame was forgotten and the report names
it: as stranded, or as kept when it was reapplied. -/
theorem Restored.putBack_or_named (h : Restored merge frames back d) (hframe : frame ∈ frames) :
    PutBack back frame ∨
      ((∀ f answer, .dropFrame f answer ∉ back) ∧ d.isClean = false ∧
        (frame ∈ d.stranded ∨ .applyFrame frame (.ok ()) ∈ back ∧ keptText frame ∈ d.failures)) := by
  obtain @⟨tried, written, d, failures, hback, hwritten⟩ := h
  cases hback with
  | @all drops hdrops =>
    have hback : Event.applyFrame frame (.ok ()) ∈ frames.map broughtBack :=
      List.mem_map_of_mem (f := broughtBack) hframe
    obtain ⟨e, he, answer, rfl⟩ := exists_of_mem_forall₂ hdrops.flip hframe
    exact .inl ⟨by simp [hback], answer, by simp [he]⟩
  | @stuck applied rest stuck e hsplit =>
    refine .inr ⟨fun f answer hdrop => ?_, rfl, ?_⟩
    · rcases List.mem_append.mp hdrop with hdrop | hdrop
      · rcases List.mem_append.mp hdrop with hdrop | hdrop
        · obtain ⟨f', -, heq⟩ := List.mem_map.mp hdrop
          cases heq
        · cases List.mem_singleton.mp hdrop
      · exact hwritten.not_handles hdrop f rfl
    · rw [hsplit] at hframe
      rcases List.mem_append.mp hframe with happlied | hstranded
      · have hback : Event.applyFrame frame (.ok ()) ∈ applied.map broughtBack :=
          List.mem_map_of_mem (f := broughtBack) happlied
        have htext : keptText frame ∈ applied.map keptText := List.mem_map_of_mem happlied
        exact .inr ⟨by simp [hback], by simp [htext]⟩
      · exact .inl hstranded

/-! ## From the capture to the end -/

/-- How the owner of an isolation parts with it. -/
inductive Ending where
  | release
  | letGo
deriving DecidableEq, Repr

section Lives

variable {σ : Type} {vcs : VersionControl σ} {linter : Linter σ}

/-- There is one way back when an isolation is released: nothing is left to do afterwards. -/
theorem Guard.release_eq (g : Guard) : Guard.release vcs g = Isolation.release vcs g.isolation :=
  rfl

variable (vcs) in
/-- Parts with an isolation. Only a release answers. -/
def Guard.part (g : Guard) : Ending → Act σ (Except RunError Unit)
  | .release => Guard.release vcs g
  | .letGo => do
    Guard.letGo vcs g
    return .ok ()

variable (vcs linter) in
/-- The life of an isolation. -/
def lifetime (verbose : Bool) (steps : List Step) (ending : Ending) : Act σ (Except RunError Unit) := do
  match ← capture vcs verbose with
  | .error e => return .error e
  | .ok i => do
    let i ← performAll vcs linter i steps
    Guard.part vcs ⟨i, false⟩ ending

/-- How an incomplete restoration is told: by the answer of the release, or else in the banner. -/
def Ending.Tells (es : List Event) (answer : Except RunError Unit) (d : Desync) : Ending → Prop
  | .release => answer = .error (.desync d)
  | .letGo => .say (.alarm alarmTitle d.text) ∈ es

/-- The life of an isolation by its calls: the record of a merge is read, each step makes its one
call, and then there is one way back, for the frames of the last attempts. -/
inductive Lived (steps : List Step) (ending : Ending) (es : List Event) :
    List Event → Except RunError Unit → Prop where
  | unread {e : VcsError} {error : RunError} :
      Lived steps ending es [.readMergeState (.error e)] (.error error)
  | restored {merge : Option MergeState} {inside back : List Event} {d : Desync}
      {answer : Except RunError Unit} (hinside : List.Forall₂ Step.Makes steps inside)
      (hback : Restored merge (lastFrames inside) back d)
      (hclean : d.isClean = true → answer = .ok ())
      (htold : d.isClean = false → ending.Tells es answer d) :
      Lived steps ending es (.readMergeState (.ok merge) :: (inside ++ back)) answer

theorem does_part (i : Isolation) (ending : Ending) :
    Does vcs linter (Guard.part vcs ⟨i, false⟩ ending) fun es answer =>
      ∃ d, Restored i.merge i.frames (calls es) d ∧ (d.isClean = true → answer = .ok ()) ∧
        (d.isClean = false → ending.Tells es answer d) := by
  cases ending with
  | release =>
    rw [Guard.part, Guard.release_eq]
    refine (Snapshot.does_release i).mono fun es answer ⟨d, hback, hanswer⟩ =>
      ⟨d, hback, fun hclean => ?_, fun hdirty => ?_⟩
    · rw [hanswer, if_pos hclean]
    · rw [Ending.Tells, hanswer, hdirty]
      rfl
  | letGo =>
    refine Does.bind (does_abandon i) fun es _ ⟨d, hback, htold⟩ => does_pure ?_
    rw [List.append_nil]
    exact ⟨d, hback, fun _ => rfl, htold⟩

variable (vcs linter) in
theorem does_lifetime (verbose : Bool) (steps : List Step) (ending : Ending) :
    Does vcs linter (lifetime vcs linter verbose steps ending) fun es answer =>
      Lived steps ending es (calls es) answer := by
  refine Does.bind (does_capture verbose) fun es r h => ?_
  generalize hes : calls es = cs at h
  cases h with
  | unread =>
    refine does_pure ?_
    rw [List.append_nil, hes]
    exact .unread
  | read =>
    refine Does.bind ((does_performAll_slots steps _).and (does_performAll steps _)) ?_
    rintro es₁ i ⟨⟨hinside, hslots⟩, hmerge, -⟩
    refine (does_part i ending).mono fun es₂ answer ⟨d, hback, hclean, htold⟩ => ?_
    -- both slots are empty at first
    have hframes : i.frames = lastFrames (calls es₁) := by
      have hunstaged := (hslots .unstaged).trans (foldl_slotAfter .unstaged _)
      have hstaged := (hslots .staged).trans (foldl_slotAfter .staged _)
      rw [lastFrames, ← hunstaged, ← hstaged]
      rfl
    rw [hmerge, hframes] at hback
    rw [calls_append, calls_append, hes, List.singleton_append]
    refine .restored hinside hback hclean fun hdirty => ?_
    cases ending with
    | release => exact htold hdirty
    | letGo => exact List.mem_append_right _ (List.mem_append_right _ (htold hdirty))

end Lives

/-! ## What becomes of a frame -/

/-- A frame is accounted for: it is put back, or it is still held and what is told names it, as
stranded or as reapplied and kept. -/
def Accounted (es : List Event) (held : List Frame) (told : Desync → Prop) (frame : Frame) : Prop :=
  PutBack es frame ∨ (frame ∈ held ∧ ∃ d, told d ∧
    (frame ∈ d.stranded ∨ .applyFrame frame (.ok ()) ∈ es ∧ keptText frame ∈ d.failures))

/-- A frame is left behind: it is still held, nothing was done about it, and the report does not name
it. -/
def LeftBehind (es : List Event) (held : List Frame) (d : Desync) (frame : Frame) : Prop :=
  frame ∈ held ∧ (∀ e ∈ es, ¬e.Handles frame) ∧ ¬Names d frame

/-- Where the frames of the last attempts are told apart from another one by their ids, the way back
does not touch that one and does not name it. -/
theorem Restored.leaves_behind {inside : List Event} (h : Restored merge (lastFrames inside) back d)
    (hother : ∀ f ∈ lastFrames inside, f.id ≠ frame.id) :
    (∀ e ∈ back, ¬e.Handles frame) ∧ ¬Names d frame := by
  constructor
  · exact fun e he hhandles => hother frame ((h.handles he).2 frame hhandles) rfl
  · intro hnames
    obtain ⟨f, hf, hid⟩ := h.exists_of_names hnames
    exact hother f hf hid

section Fates

variable {σ : Type} {vcs : VersionControl σ} {linter : Linter σ} {view : σ → List Frame}
  {steps : List Step} {inside : List Event}

/-- In front of the way back no frame is handled. -/
theorem mem_back_of_handles (hinside : List.Forall₂ Step.Makes steps inside) {e : Event} {f : Frame}
    (he : e ∈ Event.readMergeState (.ok merge) :: (inside ++ back)) (hhandles : e.Handles f) :
    e ∈ back := by
  rcases List.mem_cons.mp he with rfl | he
  · exact hhandles.elim
  rcases List.mem_append.mp he with he | he
  · obtain ⟨step, -, hmakes⟩ := exists_of_mem_forall₂ hinside he
    exact absurd hhandles (hmakes.not_handles f)
  · exact he

/-- A frame that was recorded inside is held at the end, unless the way back forgets its id. -/
theorem held_of_recorded {w w' : σ} (hview : FrameView vcs linter view)
    (hist : History vcs linter (.readMergeState (.ok merge) :: (inside ++ back)) w w')
    (hinside : List.Forall₂ Step.Makes steps inside) (hframe : frame ∈ recorded inside)
    (hdrop : ∀ f answer, .dropFrame f answer ∈ back → f.id ≠ frame.id) : frame ∈ view w' := by
  have hrecorded : frame ∈ recorded (.readMergeState (.ok merge) :: (inside ++ back)) := by
    rw [recorded_cons, recorded_append]
    exact List.mem_append_right _ (List.mem_append_left _ hframe)
  refine hview.mem_of_recorded hist hrecorded fun f answer hmem => ?_
  exact hdrop f answer (mem_back_of_handles hinside hmem rfl)

theorem accounted_of_last {w w' : σ} {told : Desync → Prop} (hview : FrameView vcs linter view)
    (hist : History vcs linter (.readMergeState (.ok merge) :: (inside ++ back)) w w')
    (hinside : List.Forall₂ Step.Makes steps inside)
    (hback : Restored merge (lastFrames inside) back d) (htold : d.isClean = false → told d)
    (hframe : frame ∈ recorded inside) (hlast : frame ∈ lastFrames inside) :
    Accounted (.readMergeState (.ok merge) :: (inside ++ back)) (view w') told frame := by
  have hmem : ∀ e ∈ back, e ∈ Event.readMergeState (.ok merge) :: (inside ++ back) := fun e he =>
    List.mem_cons_of_mem _ (List.mem_append_right _ he)
  rcases hback.putBack_or_named hlast with ⟨happlied, answer, hdrop⟩ | ⟨hnone, hdirty, hnamed⟩
  · exact .inl ⟨hmem _ happlied, answer, hmem _ hdrop⟩
  · have hheld : frame ∈ view w' := held_of_recorded hview hist hinside hframe
      fun f answer hdrop => absurd hdrop (hnone f answer)
    exact .inr ⟨hheld, d, htold hdirty,
      hnamed.imp id fun ⟨happlied, htext⟩ => ⟨hmem _ happlied, htext⟩⟩

theorem leftBehind_of_not_last {w w' : σ} (hview : FrameView vcs linter view)
    (hist : History vcs linter (.readMergeState (.ok merge) :: (inside ++ back)) w w')
    (hinside : List.Forall₂ Step.Makes steps inside)
    (hback : Restored merge (lastFrames inside) back d)
    (hfresh : ((recorded inside).map Frame.id).Nodup) (hframe : frame ∈ recorded inside)
    (hnot : frame ∉ lastFrames inside) :
    LeftBehind (.readMergeState (.ok merge) :: (inside ++ back)) (view w') d frame := by
  -- the ids being fresh, the frames of the last attempts have others
  have hother : ∀ f ∈ lastFrames inside, f.id ≠ frame.id := by
    intro f hf hid
    obtain ⟨side, hside⟩ := mem_lastFrames.mp hf
    have hsame : f = frame :=
      List.inj_on_of_nodup_map hfresh (mem_recorded_of_lastHeld hside) hframe hid
    exact hnot (hsame ▸ hf)
  obtain ⟨huntouched, hunnamed⟩ := hback.leaves_behind hother
  have hheld : frame ∈ view w' := held_of_recorded hview hist hinside hframe
    fun f answer hdrop => hother f ((hback.handles hdrop).2 f rfl)
  refine ⟨hheld, fun e he hhandles => ?_, hunnamed⟩
  exact huntouched e (mem_back_of_handles hinside he hhandles) hhandles

/-- **A frame of a last attempt is accounted for, and a frame of any other is left behind.** Whatever
steps are performed in an isolation, and however it ends, there is one way back. If the recorded frames
have ids of their own, those that the last attempt at each side recorded are put back, or still held
and named by what is told at the end; every other one is still held, while nothing is done about it
and the report is silent. -/
theorem lifetime_accounts (hview : FrameView vcs linter view) (verbose : Bool) (steps : List Step)
    (ending : Ending) (s : Session σ) :
    ∃ es, (lifetime vcs linter verbose steps ending s).2.events = s.events ++ es ∧
      ((∃ e, calls es = [.readMergeState (.error e)]) ∨
        ∃ merge inside back d, calls es = .readMergeState (.ok merge) :: (inside ++ back) ∧
          List.Forall₂ Step.Makes steps inside ∧ Restored merge (lastFrames inside) back d ∧
          (d.isClean = true → (lifetime vcs linter verbose steps ending s).1 = .ok ()) ∧
          (d.isClean = false → ending.Tells es (lifetime vcs linter verbose steps ending s).1 d) ∧
          (((recorded inside).map Frame.id).Nodup → ∀ frame ∈ recorded inside,
            (frame ∈ lastFrames inside → Accounted (calls es)
              (view (lifetime vcs linter verbose steps ending s).2.world)
              (fun d => ending.Tells es (lifetime vcs linter verbose steps ending s).1 d) frame) ∧
            (frame ∉ lastFrames inside → LeftBehind (calls es)
              (view (lifetime vcs linter verbose steps ending s).2.world) d frame))) := by
  obtain ⟨es, hes, hist, h⟩ := does_lifetime vcs linter verbose steps ending s
  refine ⟨es, hes, ?_⟩
  replace hist := hist.calls
  generalize lifetime vcs linter verbose steps ending s = lived at hist h ⊢
  obtain ⟨answer, s'⟩ := lived
  generalize calls es = cs at hist h ⊢
  cases h with
  | @unread e => exact .inl ⟨e, rfl⟩
  | @restored merge inside back d _ hinside hback hclean htold =>
  refine .inr ⟨merge, inside, back, d, rfl, hinside, hback, hclean, htold,
    fun hfresh frame hframe => ⟨?_, ?_⟩⟩
  · exact accounted_of_last hview hist hinside hback htold hframe
  · exact leftBehind_of_not_last hview hist hinside hback hfresh hframe

end Fates

end Isolation

/-! ## The scripted version control -/

namespace Rehearsal

/-- The scripted version control holds frames as a version control does. -/
theorem frameView (plan : Plan) : FrameView versionControl (Rehearsal.linter plan) (·.frames) where
  recorded {e frame w w'} h hrecorded := by
    cases e with
    | saveFrame label keepIndex answer =>
      have hsaved := save_records h
      rw [hrecorded] at hsaved
      cases hsaved with
      | frame => exact List.mem_append_right _ (List.mem_singleton_self frame)
    | _ => cases hrecorded
  kept {e frame w w'} h hdrop hw := by
    cases e with
    | saveFrame label keepIndex answer =>
      have hsaved := save_records h
      generalize (Event.saveFrame label keepIndex answer).recorded? = recorded at hsaved
      cases hsaved with
      | nothing => exact hw
      | frame => exact List.mem_append_left _ hw
    | dropFrame f answer =>
      rcases scripted_cases h with ⟨-, rfl⟩ | ⟨-, rfl⟩
      · exact hw
      · have hother : f.id ≠ frame.id := hdrop f answer rfl
        exact List.mem_filter.mpr ⟨hw, bne_iff_ne.mpr hother.symm⟩
    | lint path mode answer =>
      obtain ⟨linted, rfl⟩ := lint_notes h
      exact hw
    | say =>
      obtain rfl : w' = w := h
      exact hw
    | _ =>
      rcases scripted_cases h with ⟨-, rfl⟩ | ⟨-, rfl⟩
      · exact hw
      · exact hw

end Rehearsal

namespace Isolation

/-! ## Attempts that are repeated -/

/-- Two attempts at the unstaged changes, and one at the staged ones. -/
def repeatedSteps : List Step := [.setAside .unstaged, .setAside .unstaged, .setAside .staged]

/-- The life of an isolation with these steps, when the staged changes will not come back. -/
def repeatedLife : Except RunError Unit × Session Rehearsal.Stage :=
  lifetime Rehearsal.versionControl (Rehearsal.linter Snapshot.stuckPlan) false repeatedSteps .release
    { world := { plan := Snapshot.stuckPlan } }

/-- The frame of the first attempt is left behind. Of the others the one is kept, the other stranded,
and the answer names both. -/
theorem lifetime_accounts_repeated :
    FrameView Rehearsal.versionControl (Rehearsal.linter Snapshot.stuckPlan) (·.frames) ∧
      ∃ inside d,
        recorded inside
          = [⟨"frame-0", unstagedLabel⟩, ⟨"frame-1", unstagedLabel⟩, ⟨"frame-2", stagedLabel⟩] ∧
        lastFrames inside = [⟨"frame-1", unstagedLabel⟩, ⟨"frame-2", stagedLabel⟩] ∧
        (∀ frame ∈ lastFrames inside, Accounted (calls repeatedLife.2.events)
          repeatedLife.2.world.frames (fun d => repeatedLife.1 = .error (.desync d)) frame) ∧
        LeftBehind (calls repeatedLife.2.events) repeatedLife.2.world.frames d
          ⟨"frame-0", unstagedLabel⟩ := by
  have hview := Rehearsal.frameView Snapshot.stuckPlan
  obtain ⟨es, hes, hlife⟩ := lifetime_accounts hview false repeatedSteps .release
    { world := { plan := Snapshot.stuckPlan } }
  rw [← repeatedLife] at hes hlife
  rw [List.nil_append] at hes
  subst hes
  have hnames : (calls repeatedLife.2.events).filterMap Rehearsal.callName?
      = ["read merge state", "save " ++ unstagedLabel, "save " ++ unstagedLabel,
        "save " ++ stagedLabel, "apply " ++ unstagedLabel, "apply " ++ stagedLabel] := by
    decide +kernel
  rcases hlife with ⟨e, hunread⟩ | ⟨merge, inside, back, d, hcalls, hinside, -, -, -, hframes⟩
  · rw [hunread] at hnames
    exact absurd (congrArg List.length hnames) (by simp [Rehearsal.callName?])
  -- the calls inside are the three behind the first
  have hthree : inside = ((calls repeatedLife.2.events).drop 1).take 3 := by
    rw [hcalls]
    exact (List.take_left' hinside.length_eq.symm).symm
  have hrecorded : recorded inside
      = [⟨"frame-0", unstagedLabel⟩, ⟨"frame-1", unstagedLabel⟩, ⟨"frame-2", stagedLabel⟩] := by
    rw [hthree]
    decide +kernel
  have hlast : lastFrames inside
      = [⟨"frame-1", unstagedLabel⟩, ⟨"frame-2", stagedLabel⟩] := by
    rw [hthree]
    decide +kernel
  have hfates := hframes (by rw [hrecorded]; decide)
  refine ⟨hview, inside, d, hrecorded, hlast, fun frame hframe => ?_, ?_⟩
  · obtain ⟨side, hside⟩ := mem_lastFrames.mp hframe
    exact (hfates frame (mem_recorded_of_lastHeld hside)).1 hframe
  · refine (hfates _ ?_).2 ?_
    · rw [hrecorded]
      exact List.mem_cons_self
    · rw [hlast]
      decide

/-- The scripted version control, when nothing more can be recorded behind the first frame. -/
def recordsOnce : VersionControl Rehearsal.Stage :=
  { Rehearsal.versionControl with
    saveFrame := fun label keepIndex => do
      if (← get).recorded = 0 then Rehearsal.save label keepIndex
      else return .error ⟨⟨"create holding frame", "index locked"⟩, none⟩ }

/-- The unstaged changes are set aside, the attempt is repeated and fails, and the isolation is
released. -/
def retriedLife : Except RunError Unit × Session Rehearsal.Stage :=
  lifetime recordsOnce (Rehearsal.linter {}) false [.setAside .unstaged, .setAside .unstaged] .release
    { world := {} }

/-- Not every frame that was recorded is accounted for: the release succeeds without a word, and the
one frame is still held and was not reapplied. -/
theorem retry_loses_frame :
    ((recorded (calls retriedLife.2.events)).map Frame.id).Nodup ∧ retriedLife.1 = .ok () ∧
      ¬∀ frame ∈ recorded (calls retriedLife.2.events),
        Accounted (calls retriedLife.2.events) retriedLife.2.world.frames
          (fun d => retriedLife.1 = .error (.desync d)) frame := by
  have hrecorded : recorded (calls retriedLife.2.events) = [⟨"frame-0", unstagedLabel⟩] := by
    decide +kernel
  have hanswer : retriedLife.1 = .ok () := by
    have hok : retriedLife.1.toOption = some () := by decide +kernel
    cases hlife : retriedLife.1 with
    | ok u => rfl
    | error e =>
      rw [hlife] at hok
      cases hok
  have hnames : (calls retriedLife.2.events).filterMap Rehearsal.callName?
      = ["read merge state", "save " ++ unstagedLabel, "save " ++ unstagedLabel] := by
    decide +kernel
  refine ⟨by rw [hrecorded]; decide, hanswer, fun hall => ?_⟩
  have hframe := hall ⟨"frame-0", unstagedLabel⟩ (by rw [hrecorded]; exact List.mem_singleton_self _)
  rcases hframe with ⟨happlied, -⟩ | ⟨-, d, htold, -⟩
  · have hname : "apply " ++ unstagedLabel ∈ (calls retriedLife.2.events).filterMap
        Rehearsal.callName? := List.mem_filterMap.mpr ⟨_, happlied, rfl⟩
    rw [hnames] at hname
    exact absurd hname (by decide)
  · rw [hanswer] at htold
    cases htold

end Isolation

end LintGate
