/-
A merge in progress survives.

Git throws the record of a merge away when changes are set aside, which is why it is
read before the first frame and written back at the end. What is assumed about the
version control is stated once, in `MergeView`: recording a frame wipes the record,
writing sets it, and nothing else touches it.

The invariant from the reading on is that the record is still the one that was read,
or gone. Every event but a write keeps it, the linter's included. The last call writes
what was read, so the only way for the record to be missing at the end is that this
very write failed, and then the failure is told: by the answer of the run, or, when the
isolation was dropped half-way, by the banner.
-/
import LintGate.Rehearsal
import LintGate.Proofs.Snapshot.Frames

set_option autoImplicit false

namespace LintGate

variable {σ : Type} {vcs : VersionControl σ} {linter : Linter σ} {view : σ → Option MergeState}

/-! ## The record of a merge in a world -/

/-- Whether an event writes the record of a merge. -/
def Event.isMergeWrite : Event → Bool
  | .writeMergeState _ _ => true
  | _ => false

theorem Event.Asks.not_isMergeWrite {e : Event} (h : e.Asks) : e.isMergeWrite = false := by
  cases h <;> rfl

/-- How the record of a merge changes. Nothing is assumed about which calls succeed, and nothing
about the record after a write that failed. -/
structure MergeView (vcs : VersionControl σ) (linter : Linter σ) (view : σ → Option MergeState) :
    Prop where
  /-- What is read is the record. -/
  read {w w' : σ} {merge : Option MergeState} (h : vcs.readMergeState w = (.ok merge, w')) :
    merge = view w
  /-- Recording a frame wipes it, also when the save fails afterwards. -/
  wiped {w w' : σ} {label : String} {keepIndex : Bool} {answer : Except SaveError (Option Frame)}
    (h : vcs.saveFrame label keepIndex w = (answer, w'))
    (hrecorded : (Event.saveFrame label keepIndex answer).recorded? ≠ none) : view w' = none
  /-- Writing sets it. -/
  written {w w' : σ} {merge : MergeState} (h : vcs.writeMergeState merge w = (.ok (), w')) :
    view w' = some merge
  /-- Nothing else changes it. -/
  kept {e : Event} {w w' : σ} (h : e.Happened vcs linter w w') (hrecorded : e.recorded? = none)
    (hwrite : e.isMergeWrite = false) : view w' = view w

/-- A write of the record failed, and the report says so. -/
def MergeLost (es : List Event) (d : Desync) : Prop :=
  ∃ merge e, .writeMergeState merge (.error e) ∈ es ∧ Isolation.lostMergeText e ∈ d.failures

theorem MergeLost.mono {es es' : List Event} {d : Desync} (h : MergeLost es d)
    (hsub : ∀ e ∈ es, e ∈ es') : MergeLost es' d := by
  obtain ⟨merge, e, he, htext⟩ := h
  exact ⟨merge, e, hsub _ he, htext⟩

/-- The record that was read, or none: what holds from the reading to the write. -/
def ReadOrGone (view : σ → Option MergeState) (merge : Option MergeState) (w : σ) : Prop :=
  view w = merge ∨ view w = none

/-- One event, unless it writes the record. -/
theorem MergeView.readOrGone_step {merge : Option MergeState} {e : Event} {w w' : σ}
    (hview : MergeView vcs linter view) (he : e.Happened vcs linter w w')
    (hwrite : e.isMergeWrite = false) (h : ReadOrGone view merge w) : ReadOrGone view merge w' := by
  by_cases hrecorded : e.recorded? = none
  · have hsame : view w' = view w := hview.kept he hrecorded hwrite
    rw [ReadOrGone, hsame]
    exact h
  · cases e with
    | saveFrame label keepIndex answer => exact .inr (hview.wiped he hrecorded)
    | _ => exact absurd rfl hrecorded

/-- Any events, unless one of them writes the record. -/
theorem MergeView.readOrGone {merge : Option MergeState} {es : List Event} {w w' : σ}
    (hview : MergeView vcs linter view) (hist : History vcs linter es w w')
    (hwrite : ∀ e ∈ es, e.isMergeWrite = false) (h : ReadOrGone view merge w) :
    ReadOrGone view merge w' :=
  hist.keeps (fun e he _ _ hstep hw => hview.readOrGone_step hstep (hwrite e he) hw) h

/-- Events that record no frame and write no record leave it alone. -/
theorem MergeView.unchanged {es : List Event} {w w' : σ} (hview : MergeView vcs linter view)
    (hist : History vcs linter es w w') (hrecorded : ∀ e ∈ es, e.recorded? = none)
    (hwrite : ∀ e ∈ es, e.isMergeWrite = false) : view w' = view w :=
  hist.keeps (P := fun v => view v = view w)
    (fun e he _ _ hstep hv => (hview.kept hstep (hrecorded e he) (hwrite e he)).trans hv) rfl

/-! ## The way back -/

namespace Isolation

variable {merge : Option MergeState} {frames : List Frame} {es : List Event} {d : Desync}

theorem FramesRestored.not_isMergeWrite {e : Event} (h : FramesRestored frames es d) (he : e ∈ es) :
    e.isMergeWrite = false := by
  cases h with
  | all hdrops =>
    rcases List.mem_append.mp he with he | he
    · obtain ⟨frame, -, rfl⟩ := List.mem_map.mp he
      rfl
    · obtain ⟨frame, -, answer, rfl⟩ := exists_of_mem_forall₂ hdrops he
      rfl
  | stuck =>
    rcases List.mem_append.mp he with he | he
    · obtain ⟨frame, -, rfl⟩ := List.mem_map.mp he
      rfl
    · rw [List.mem_singleton.mp he]
      rfl

/-- The way back writes the record it was given and no other. -/
theorem Restored.writes {m : MergeState} {answer : Except VcsError Unit}
    (h : Restored merge frames es d) (he : .writeMergeState m answer ∈ es) : merge = some m := by
  obtain ⟨hback, hwritten⟩ := h
  rcases List.mem_append.mp he with he | he
  · exact absurd (hback.not_isMergeWrite he) Bool.true_eq_false.mp
  · cases hwritten with
    | none => cases he
    | written =>
      obtain ⟨rfl, -⟩ := Event.writeMergeState.inj (List.mem_singleton.mp he)
      rfl
    | lost =>
      obtain ⟨rfl, -⟩ := Event.writeMergeState.inj (List.mem_singleton.mp he)
      rfl

/-- At the end of the way back the record is the one that was given, unless writing it failed. -/
theorem Restored.keeps_merge {w w' : σ} (hview : MergeView vcs linter view)
    (h : Restored merge frames es d) (hist : History vcs linter es w w')
    (hw : ReadOrGone view merge w) : view w' = merge ∨ MergeLost es d := by
  obtain ⟨hback, hwritten⟩ := h
  obtain ⟨v, hfront, hend⟩ := hist.split
  have hv : ReadOrGone view merge v :=
    hview.readOrGone hfront (fun e he => hback.not_isMergeWrite he) hw
  cases hwritten with
  | none =>
    obtain rfl : w' = v := hend
    exact .inl (hv.elim id id)
  | written =>
    obtain ⟨u, hwrite, rfl⟩ := hend
    exact .inl (hview.written hwrite)
  | lost =>
    exact .inr ⟨_, _, List.mem_append_right _ List.mem_cons_self,
      List.mem_append_right _ List.mem_cons_self⟩

end Isolation

theorem MergeLost.not_isClean {es : List Event} {d : Desync} (h : MergeLost es d) :
    d.isClean = false := by
  obtain ⟨merge, e, -, he⟩ := h
  cases hfailures : d.failures with
  | nil => simp [hfailures] at he
  | cons text rest => simp [Desync.isClean, hfailures]

/-! ## The course of a run -/

namespace Snapshot

variable {mode : Option String} {files : StagedFiles} {es : List Event}
  {r : Except RunError Snapshots}

theorem Inside.not_isMergeWrite {unstaged staged : Option Frame}
    {linted : Except RunError Snapshots} {e : Event} (h : Inside mode files es unstaged staged linted)
    (he : e ∈ es) : e.isMergeWrite = false := by
  rcases h.save_or_lint he with ⟨label, keepIndex, answer, rfl⟩ | ⟨path, answer, rfl⟩
  · rfl
  · rfl

/-- A run that goes by a course keeps the record of a merge, or its write fails and the answer says
so; and it writes nothing but that record. -/
theorem Course.keeps_merge {w w' : σ} (hview : MergeView vcs linter view)
    (h : Course mode files es r) (hist : History vcs linter es w w') :
    (view w' = view w ∨ ∃ d, r = .error (.desync d) ∧ MergeLost es d) ∧
      ∀ m answer, .writeMergeState m answer ∈ es → view w = some m := by
  rcases h.asks_or_isolated with ⟨hasks, -⟩ |
    ⟨merge, inside, back, unstaged, staged, linted, d, hinside, hback, rfl, rfl⟩
  · refine ⟨.inl ?_, fun m answer he => ?_⟩
    · exact hview.unchanged hist (fun e he => (hasks e he).recorded?_eq_none)
        fun e he => (hasks e he).not_isMergeWrite
    · exact absurd (hasks _ he).not_isMergeWrite Bool.true_eq_false.mp
  -- the record is the one that was read, or gone, up to the way back
  obtain ⟨w₁, hhead, w₂, hread, hist⟩ := hist
  obtain ⟨w₃, hfront, hend⟩ := hist.split
  have hw₁ : view w₁ = view w := hview.kept hhead rfl rfl
  have hmerge : merge = view w := (hview.read hread).trans hw₁
  have hw₂ : ReadOrGone view merge w₂ :=
    .inl ((hview.kept hread rfl rfl).trans (hw₁.trans hmerge.symm))
  have hw₃ : ReadOrGone view merge w₃ :=
    hview.readOrGone hfront (fun e he => hinside.not_isMergeWrite he) hw₂
  refine ⟨?_, fun m answer he => ?_⟩
  · rw [← hmerge]
    refine (hback.keeps_merge hview hend hw₃).imp id fun hlost => ⟨d, ?_, ?_⟩
    · rw [settled, hlost.not_isClean]
      rfl
    · exact hlost.mono fun e he => by simp [he]
  · -- only the way back writes
    rw [← hmerge]
    rcases List.mem_cons.mp he with heq | he
    · cases heq
    rcases List.mem_cons.mp he with heq | he
    · cases heq
    rcases List.mem_append.mp he with he | he
    · exact absurd (hinside.not_isMergeWrite he) Bool.true_eq_false.mp
    · exact hback.writes he

/-- And so does a run over any files, since no call is made when no file has a linter. -/
theorem Runs.keeps_merge {w w' : σ} (hview : MergeView vcs linter view)
    (h : Runs linter mode files es r) (hist : History vcs linter es w w') :
    (view w' = view w ∨ ∃ d, r = .error (.desync d) ∧ MergeLost es d) ∧
      ∀ m answer, .writeMergeState m answer ∈ es → view w = some m := by
  rw [Runs] at h
  split at h
  · exact h.keeps_merge hview hist
  · obtain ⟨rfl, -⟩ := h
    obtain rfl : w' = w := hist
    exact ⟨.inl rfl, fun m answer he => absurd he List.not_mem_nil⟩

end Snapshot

/-! ## An isolation that is dropped half-way -/

namespace Isolation

open Act

/-- What may be done in an isolation before it is dropped. -/
inductive Step where
  | setAside (side : Side)
  | lint (path : String) (mode : Option String)
deriving DecidableEq, Repr

variable (vcs linter) in
/-- Performs a step. Whatever it answers, the isolation goes on with what it holds then. -/
def Step.perform (i : Isolation) : Step → Act σ Isolation
  | setAside side => do
    let (_, i) ← isolate vcs side i
    return i
  | lint path mode => do
    let _ ← linter.run path mode
    return i

variable (vcs linter) in
/-- Performs steps one after the other. -/
def performAll (i : Isolation) : List Step → Act σ Isolation
  | [] => return i
  | step :: rest => do
    let i ← step.perform vcs linter i
    performAll i rest

variable (vcs linter) in
/-- Enters an isolation, performs steps and drops it. -/
def dropAfter (verbose : Bool) (steps : List Step) : Act σ Unit := do
  match ← capture vcs verbose with
  | .error _ => return ()
  | .ok i => do
    let i ← performAll vcs linter i steps
    abandon vcs i

/-- A step keeps the record that was read, and does not write it. -/
theorem does_perform_step (step : Step) (i : Isolation) :
    Does vcs linter (step.perform vcs linter i) fun es i' =>
      i'.merge = i.merge ∧ ∀ e ∈ calls es, e.isMergeWrite = false := by
  cases step with
  | setAside side =>
    refine Does.bind (does_isolate side i) ?_
    rintro es ⟨answer, i'⟩ h
    refine does_pure ?_
    rw [List.append_nil]
    generalize calls es = cs at h
    cases h with
    | done => exact ⟨hold_merge _ _ _ _, by simp [Event.isMergeWrite]⟩
    | refused => exact ⟨hold_merge _ _ _ _, by simp [Event.isMergeWrite]⟩
  | lint path mode =>
    refine Does.bind (Linter.does_run path mode) ?_
    rintro _ answer rfl
    exact does_pure ⟨rfl, by simp [calls, Event.isMergeWrite]⟩

/-- And so do any steps. -/
theorem does_performAll (steps : List Step) (i : Isolation) :
    Does vcs linter (performAll vcs linter i steps) fun es i' =>
      i'.merge = i.merge ∧ ∀ e ∈ calls es, e.isMergeWrite = false := by
  induction steps generalizing i with
  | nil => exact does_pure ⟨rfl, by simp⟩
  | cons step rest ih =>
    refine Does.bind (does_perform_step step i) fun es i₁ ⟨hmerge, hwrite⟩ => ?_
    refine (ih i₁).mono fun es' i₂ ⟨hmerge', hwrite'⟩ => ⟨hmerge'.trans hmerge, fun e he => ?_⟩
    rw [calls_append] at he
    exact (List.mem_append.mp he).elim (hwrite e) (hwrite' e)

/-- The calls of an isolation that is dropped, with what is told. -/
inductive Dropped (es : List Event) : List Event → Prop where
  | unread {e : VcsError} : Dropped es [.readMergeState (.error e)]
  | restored {merge : Option MergeState} {frames : List Frame} {inside back : List Event} {d : Desync}
      (hwrite : ∀ e ∈ inside, e.isMergeWrite = false) (hback : Restored merge frames back d)
      (htold : d.isClean = false → .say (.alarm alarmTitle d.text) ∈ es) :
      Dropped es (.readMergeState (.ok merge) :: (inside ++ back))

variable (vcs linter) in
theorem does_dropAfter (verbose : Bool) (steps : List Step) :
    Does vcs linter (dropAfter vcs linter verbose steps) fun es _ => Dropped es (calls es) := by
  refine Does.bind (does_capture verbose) fun es r h => ?_
  generalize hes : calls es = cs at h
  cases h with
  | unread =>
    refine does_pure ?_
    rw [List.append_nil, hes]
    exact .unread
  | read =>
    refine Does.bind (does_performAll steps _) fun es₁ i ⟨hmerge, hwrite⟩ => ?_
    refine (does_abandon i).mono fun es₂ _ ⟨d, hback, htold⟩ => ?_
    rw [calls_append, calls_append, hes, List.singleton_append]
    rw [hmerge] at hback
    exact .restored hwrite hback fun hdirty =>
      List.mem_append_right _ (List.mem_append_right _ (htold hdirty))

/-- A dropped isolation keeps the record of a merge, or its write fails and the banner says so; and
it writes nothing but that record. -/
theorem Dropped.keeps_merge {es cs : List Event} {w w' : σ} (hview : MergeView vcs linter view)
    (h : Dropped es cs) (hist : History vcs linter cs w w') :
    (view w' = view w ∨ ∃ d, .say (.alarm alarmTitle d.text) ∈ es ∧ MergeLost cs d) ∧
      ∀ m answer, .writeMergeState m answer ∈ cs → view w = some m := by
  cases h with
  | unread =>
    obtain ⟨w₁, hread, rfl⟩ := hist
    exact ⟨.inl (hview.kept hread rfl rfl), by simp⟩
  | @restored merge frames inside back d hwrite hback htold =>
    obtain ⟨w₁, hread, hist⟩ := hist
    obtain ⟨w₂, hinside, hend⟩ := hist.split
    have hmerge : merge = view w := hview.read hread
    have hw₁ : ReadOrGone view merge w₁ := .inl ((hview.kept hread rfl rfl).trans hmerge.symm)
    have hw₂ : ReadOrGone view merge w₂ := hview.readOrGone hinside hwrite hw₁
    refine ⟨?_, fun m answer he => ?_⟩
    · rw [← hmerge]
      refine (hback.keeps_merge hview hend hw₂).imp id fun hlost => ⟨d, htold hlost.not_isClean, ?_⟩
      exact hlost.mono fun e he => by simp [he]
    · rw [← hmerge]
      rcases List.mem_cons.mp he with heq | he
      · cases heq
      rcases List.mem_append.mp he with he | he
      · exact absurd (hwrite _ he) Bool.true_eq_false.mp
      · exact hback.writes he

end Isolation

/-! ## The statement for a session -/

/-- **A merge in progress survives**, whatever fails. After both sides were linted the record of the
merge is the one from before, unless the run ends in an incomplete restoration that tells of the
write that failed; and likewise when an isolation is dropped after any steps, with the banner in
place of the answer. No other record is ever written, and none at all without a merge. -/
theorem merge_survives (hview : MergeView vcs linter view) :
    (∀ mode files verbose (s : Session σ), ∃ es,
      (Snapshot.take vcs linter mode files verbose s).2.events = s.events ++ es ∧
      (view (Snapshot.take vcs linter mode files verbose s).2.world = view s.world ∨
        ∃ d, (Snapshot.take vcs linter mode files verbose s).1 = .error (.desync d) ∧
          MergeLost es d) ∧
      ∀ m answer, .writeMergeState m answer ∈ es → view s.world = some m) ∧
    ∀ verbose steps (s : Session σ), ∃ es,
      (Isolation.dropAfter vcs linter verbose steps s).2.events = s.events ++ es ∧
      (view (Isolation.dropAfter vcs linter verbose steps s).2.world = view s.world ∨
        ∃ d, .say (.alarm Isolation.alarmTitle d.text) ∈ es ∧ MergeLost es d) ∧
      ∀ m answer, .writeMergeState m answer ∈ es → view s.world = some m := by
  constructor
  · intro mode files verbose s
    obtain ⟨es, hes, hist, h⟩ := Snapshot.does_take vcs linter mode files verbose s
    obtain ⟨hkept, hwrites⟩ := h.keeps_merge hview hist.calls
    refine ⟨es, hes, ?_, fun m answer he => hwrites m answer (mem_calls.mpr ⟨he, rfl⟩)⟩
    rcases hkept with hsame | ⟨d, hd, hlost⟩
    · exact .inl hsame
    · exact .inr ⟨d, hd, hlost.mono fun e he => (mem_calls.mp he).1⟩
  · intro verbose steps s
    obtain ⟨es, hes, hist, h⟩ := Isolation.does_dropAfter vcs linter verbose steps s
    obtain ⟨hkept, hwrites⟩ := h.keeps_merge hview hist.calls
    refine ⟨es, hes, ?_, fun m answer he => hwrites m answer (mem_calls.mpr ⟨he, rfl⟩)⟩
    rcases hkept with hsame | ⟨d, htold, hlost⟩
    · exact .inl hsame
    · exact .inr ⟨d, htold, hlost.mono fun e he => (mem_calls.mp he).1⟩

/-! ## The scripted version control

What is assumed of a version control holds of the scripted one, whatever its plan. -/

namespace Rehearsal

/-- A scripted call fails and changes nothing, or does what it is to do. -/
theorem scripted_cases {α : Type} {call operation : String} {act : StateM Stage α} {w w' : Stage}
    {answer : Except VcsError α} (h : scripted call operation act w = (answer, w')) :
    ((∃ e, answer = .error e) ∧ w' = w) ∨ (answer = .ok (act w).1 ∧ w' = (act w).2) := by
  unfold scripted at h
  simp only [bind, StateT.bind, get, getThe, MonadStateOf.get, StateT.get, pure] at h
  cases hfail : w.plan.failing.lookup call with
  | none =>
    simp only [hfail] at h
    obtain ⟨rfl, rfl⟩ := Prod.mk.inj h
    exact .inr ⟨rfl, rfl⟩
  | some message =>
    simp only [hfail] at h
    obtain ⟨rfl, rfl⟩ := Prod.mk.inj h
    exact .inl ⟨⟨_, rfl⟩, rfl⟩

theorem scripted_merge {α : Type} {call operation : String} {act : StateM Stage α} {w w' : Stage}
    {answer : Except VcsError α} (h : scripted call operation act w = (answer, w'))
    (hact : (act w).2.merge = w.merge) : w'.merge = w.merge := by
  rcases scripted_cases h with ⟨-, rfl⟩ | ⟨-, rfl⟩
  · rfl
  · exact hact

/-- What setting changes aside does: a frame comes in and the record of a merge goes, or neither. -/
inductive Recorded (w : Stage) : Option Frame → Stage → Prop where
  | nothing {tree : Tree} : Recorded w none { w with tree }
  | frame {tree : Tree} {frame : Frame} {recorded : Nat} :
      Recorded w (some frame)
        { w with tree, recorded, merge := none, frames := w.frames ++ [frame] }

theorem record_records {label : String} {keepIndex : Bool} {frame : Option Frame} {w w' : Stage}
    (h : record label keepIndex w = (frame, w')) : Recorded w frame w' := by
  unfold record at h
  simp only [bind, StateT.bind, get, getThe, MonadStateOf.get, StateT.get, pure] at h
  split at h
  · obtain ⟨rfl, rfl⟩ := Prod.mk.inj h
    exact .nothing
  · obtain ⟨rfl, rfl⟩ := Prod.mk.inj h
    exact .frame

/-- And so does a save, whatever the plan says of it. -/
theorem save_records {label : String} {keepIndex : Bool} {answer : Except SaveError (Option Frame)}
    {w w' : Stage} (h : save label keepIndex w = (answer, w')) :
    Recorded w (Event.saveFrame label keepIndex answer).recorded? w' := by
  unfold save at h
  simp only [bind, StateT.bind, get, getThe, MonadStateOf.get, StateT.get, pure] at h
  generalize hrecord : record label keepIndex w = result at h
  obtain ⟨frame, v⟩ := result
  have hrecorded : Recorded w frame v := record_records hrecord
  cases hfail : w.plan.failing.lookup ("save " ++ label) with
  | none =>
    simp only [hfail, StateT.bind, hrecord] at h
    obtain ⟨rfl, rfl⟩ := Prod.mk.inj h
    exact hrecorded
  | some message =>
    by_cases hheld : w.plan.held.contains ("save " ++ label) = true
    · simp only [hfail, hheld, if_true, StateT.bind, hrecord] at h
      cases frame with
      | none =>
        obtain ⟨rfl, rfl⟩ := Prod.mk.inj h
        exact hrecorded
      | some frame =>
        obtain ⟨rfl, rfl⟩ := Prod.mk.inj h
        exact hrecorded
    · simp only [hfail, hheld, Bool.false_eq_true, if_false] at h
      obtain ⟨rfl, rfl⟩ := Prod.mk.inj h
      exact .nothing

/-- The scripted linter only notes what it was asked. -/
theorem lint_notes {plan : Plan} {path : String} {mode : Option String}
    {answer : Except LintError (Option LintResult)} {w w' : Stage}
    (h : (Rehearsal.linter plan).lint path mode w = (answer, w')) :
    ∃ linted, w' = { w with linted } := by
  unfold Rehearsal.linter at h
  simp only [bind, StateT.bind, get, getThe, MonadStateOf.get, StateT.get, pure] at h
  cases hreply : w.plan.reply? w.tree path with
  | none =>
    simp only [hreply] at h
    obtain ⟨-, rfl⟩ := Prod.mk.inj h
    exact ⟨_, rfl⟩
  | some reply =>
    simp only [hreply] at h
    cases reply with
    | answer result =>
      obtain ⟨-, rfl⟩ := Prod.mk.inj h
      exact ⟨_, rfl⟩
    | crash message =>
      obtain ⟨-, rfl⟩ := Prod.mk.inj h
      exact ⟨_, rfl⟩
    | fatal message =>
      obtain ⟨-, rfl⟩ := Prod.mk.inj h
      exact ⟨_, rfl⟩

/-- The scripted version control treats the record of a merge as a version control does. -/
theorem mergeView (plan : Plan) : MergeView versionControl (Rehearsal.linter plan) (·.merge) where
  read {w w' merge} h := by
    rcases scripted_cases h with ⟨⟨e, he⟩, -⟩ | ⟨hanswer, -⟩
    · cases he
    · exact Except.ok.inj hanswer
  wiped {w w' label keepIndex answer} h hrecorded := by
    have hsaved := save_records h
    generalize (Event.saveFrame label keepIndex answer).recorded? = frame at hrecorded hsaved
    cases hsaved with
    | nothing => exact absurd rfl hrecorded
    | frame => rfl
  written {w w' merge} h := by
    rcases scripted_cases h with ⟨⟨e, he⟩, -⟩ | ⟨-, rfl⟩
    · cases he
    · rfl
  kept {e w w'} h hrecorded hwrite := by
    cases e with
    | saveFrame label keepIndex answer =>
      have hsaved := save_records h
      rw [hrecorded] at hsaved
      cases hsaved with
      | nothing => rfl
    | writeMergeState => cases hwrite
    | lint path mode answer =>
      obtain ⟨linted, rfl⟩ := lint_notes h
      rfl
    | say =>
      obtain rfl : w' = w := h
      rfl
    | _ => exact scripted_merge h rfl

end Rehearsal

/-- A plan in which setting the staged changes aside fails after their frame was recorded. -/
def heldPlan : Rehearsal.Plan :=
  { failing := [("save " ++ stagedLabel, "interrupted")], held := ["save " ++ stagedLabel]
    replies := [(.staged, [("a.js", .answer { text := "clean" })])] }

/-- A session by that plan, with a merge in progress. -/
def heldSession : Session Rehearsal.Stage :=
  { world := { plan := heldPlan, merge := some ⟨[0x61, 0x0a], some [0x6d], none⟩ } }

/-- The assumption and what follows, for that session. -/
theorem merge_survives_held :
    MergeView Rehearsal.versionControl (Rehearsal.linter heldPlan) (·.merge) ∧
      ∃ es, (Snapshot.take Rehearsal.versionControl (Rehearsal.linter heldPlan) none
          { modifiedOrCopied := ["a.js"] } false heldSession).2.events = heldSession.events ++ es ∧
        ((Snapshot.take Rehearsal.versionControl (Rehearsal.linter heldPlan) none
            { modifiedOrCopied := ["a.js"] } false heldSession).2.world.merge
              = heldSession.world.merge ∨
          ∃ d, (Snapshot.take Rehearsal.versionControl (Rehearsal.linter heldPlan) none
            { modifiedOrCopied := ["a.js"] } false heldSession).1 = .error (.desync d) ∧
              MergeLost es d) ∧
        ∀ m answer, .writeMergeState m answer ∈ es → heldSession.world.merge = some m :=
  ⟨Rehearsal.mergeView heldPlan, (merge_survives (Rehearsal.mergeView heldPlan)).1 _ _ _ _⟩

end LintGate
