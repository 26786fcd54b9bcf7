/-
What an action of the gate does, told by its events.

A session's list of events is meant to be a complete record: every call of a
collaborator stands in it with its answer. This file makes that a statement and a
way to reason. `History` says that a list of events is a true record of what led
from one world to another, each event being the answer the collaborator really gave
in the world it was asked in. `Act.Does` says that an action, in whatever session it
starts, appends events that are such a record, and that these events and its answer
satisfy a postcondition.

The postcondition sees no world. That is on purpose: what the gate does depends on
the answers it gets and on nothing else, so a statement about its events holds for
every behaviour of the collaborators, and a statement about a world is an induction
over a history. Each operation gets one lemma here, `Does.bind` chains them, and no
proof about the gate opens the state monad again.
-/
import LintGate.Session
import Mathlib.Data.List.Forall2

set_option autoImplicit false

namespace LintGate

variable {σ : Type} (vcs : VersionControl σ) (linter : Linter σ)

/-! ## Records of what happened -/

/-- Whether an event is what really happens in the world `w`, and `w'` the world after it. A message
touches no world. -/
def Event.Happened (w : σ) : Event → σ → Prop
  | .stagedPaths filter answer, w' => vcs.stagedPaths filter w = (answer, w')
  | .stagedRenames answer, w' => vcs.stagedRenames w = (answer, w')
  | .hasCommits answer, w' => vcs.hasCommits w = (answer, w')
  | .saveFrame label keepIndex answer, w' => vcs.saveFrame label keepIndex w = (answer, w')
  | .applyFrame frame answer, w' => vcs.applyFrame frame w = (answer, w')
  | .dropFrame frame answer, w' => vcs.dropFrame frame w = (answer, w')
  | .heldFrames labels answer, w' => vcs.heldFrames labels w = (answer, w')
  | .readMergeState answer, w' => vcs.readMergeState w = (answer, w')
  | .writeMergeState merge answer, w' => vcs.writeMergeState merge w = (answer, w')
  | .lint path mode answer, w' => linter.lint path mode w = (answer, w')
  | .say _, w' => w' = w

/-- A true record of what led from one world to another. -/
def History : List Event → σ → σ → Prop
  | [], w, w' => w' = w
  | e :: es, w, w' => ∃ v, e.Happened vcs linter w v ∧ History es v w'

variable {vcs linter}

theorem history_singleton {e : Event} {w w' : σ} (h : e.Happened vcs linter w w') :
    History vcs linter [e] w w' := ⟨w', h, rfl⟩

/-- Records of what happened one after the other join. -/
theorem History.append {es es' : List Event} {w v w' : σ} (h : History vcs linter es w v)
    (h' : History vcs linter es' v w') : History vcs linter (es ++ es') w w' := by
  induction es generalizing w with
  | nil =>
    have hv : v = w := h
    rw [List.nil_append, ← hv]
    exact h'
  | cons e es ih =>
    obtain ⟨u, he, hes⟩ := h
    exact ⟨u, he, ih hes⟩

/-- A record of two things is a record of the one and then of the other. -/
theorem History.split {es es' : List Event} {w w' : σ} (h : History vcs linter (es ++ es') w w') :
    ∃ v, History vcs linter es w v ∧ History vcs linter es' v w' := by
  induction es generalizing w with
  | nil => exact ⟨w, rfl, h⟩
  | cons e es ih =>
    obtain ⟨u, he, hes⟩ := h
    obtain ⟨v, hv, hv'⟩ := ih hes
    exact ⟨v, ⟨u, he, hv⟩, hv'⟩

/-- What each event that happens keeps, a record keeps: the events are taken one by one, and what
holds of the world before is what the next event is given. -/
theorem History.keeps {es : List Event} {w w' : σ} {P : σ → Prop} (h : History vcs linter es w w')
    (hstep : ∀ e ∈ es, ∀ u v, e.Happened vcs linter u v → P u → P v) (hw : P w) : P w' := by
  induction es generalizing w with
  | nil =>
    have hw' : w' = w := h
    rw [hw']
    exact hw
  | cons e es ih =>
    obtain ⟨v, he, hes⟩ := h
    have hv : P v := hstep e List.mem_cons_self w v he hw
    exact ih hes (fun e' he' => hstep e' (List.mem_cons_of_mem _ he')) hv

/-! ## Actions and their events -/

namespace Act

variable {α β : Type}

variable (vcs linter) in
/-- Whatever session it starts in, the action appends events that are a true record, and these and
its answer satisfy the postcondition. -/
def Does (act : Act σ α) (post : List Event → α → Prop) : Prop :=
  ∀ s : Session σ, ∃ es, (act s).2.events = s.events ++ es ∧
    History vcs linter es s.world (act s).2.world ∧ post es (act s).1

theorem Does.mono {act : Act σ α} {post post' : List Event → α → Prop}
    (h : Does vcs linter act post) (hpost : ∀ es a, post es a → post' es a) :
    Does vcs linter act post' := by
  intro s
  obtain ⟨es, hes, hist, ha⟩ := h s
  exact ⟨es, hes, hist, hpost es _ ha⟩

/-- Two things that an action does, it does with the same events. -/
theorem Does.and {act : Act σ α} {post post' : List Event → α → Prop}
    (h : Does vcs linter act post) (h' : Does vcs linter act post') :
    Does vcs linter act fun es a => post es a ∧ post' es a := by
  intro s
  obtain ⟨es, hes, hist, ha⟩ := h s
  obtain ⟨es', hes', -, ha'⟩ := h' s
  obtain rfl : es = es' := List.append_cancel_left (hes.symm.trans hes')
  exact ⟨es, hes, hist, ha, ha'⟩

/-- Answering without doing anything. -/
theorem does_pure {a : α} {post : List Event → α → Prop} (h : post [] a) :
    Does vcs linter (pure a) post :=
  fun _ => ⟨[], (List.append_nil _).symm, rfl, h⟩

/-- One action after the other: the second one's postcondition is about what both did. -/
theorem Does.bind {x : Act σ α} {f : α → Act σ β} {post : List Event → α → Prop}
    {post' : List Event → β → Prop} (hx : Does vcs linter x post)
    (hf : ∀ es a, post es a → Does vcs linter (f a) fun es' b => post' (es ++ es') b) :
    Does vcs linter (x >>= f) post' := by
  intro s
  obtain ⟨es, hes, hist, ha⟩ := hx s
  obtain ⟨es', hes', hist', hb⟩ := hf es (x s).1 ha (x s).2
  refine ⟨es ++ es', ?_, hist.append hist', hb⟩
  rw [← List.append_assoc, ← hes]
  exact hes'

/-- A collaborator's operation is one event. -/
theorem does_perform {operation : StateM σ α} {event : α → Event}
    (h : ∀ w, (event (operation w).1).Happened vcs linter w (operation w).2) :
    Does vcs linter (perform operation event) fun es a => es = [event a] :=
  fun s => ⟨[event (operation s.world).1], rfl, history_singleton (h s.world), rfl⟩

theorem does_say (message : Console.Message) :
    Does vcs linter (say message) fun es _ => es = [.say message] :=
  fun _ => ⟨[.say message], rfl, history_singleton rfl, rfl⟩

theorem does_line (level : Console.Level) (text : String) :
    Does vcs linter (line level text) fun es _ => es = [.say (.line level text)] :=
  does_say _

end Act

/-! ## The collaborators' operations -/

namespace VersionControl

open Act

theorem does_askStagedPaths (filter : ChangeFilter) :
    Does vcs linter (vcs.askStagedPaths filter) fun es a => es = [.stagedPaths filter a] :=
  does_perform fun _ => rfl

theorem does_askStagedRenames :
    Does vcs linter vcs.askStagedRenames fun es a => es = [.stagedRenames a] :=
  does_perform fun _ => rfl

theorem does_askHasCommits :
    Does vcs linter vcs.askHasCommits fun es a => es = [.hasCommits a] :=
  does_perform fun _ => rfl

theorem does_save (label : String) (keepIndex : Bool) :
    Does vcs linter (vcs.save label keepIndex) fun es a => es = [.saveFrame label keepIndex a] :=
  does_perform fun _ => rfl

theorem does_apply (frame : Frame) :
    Does vcs linter (vcs.apply frame) fun es a => es = [.applyFrame frame a] :=
  does_perform fun _ => rfl

theorem does_drop (frame : Frame) :
    Does vcs linter (vcs.drop frame) fun es a => es = [.dropFrame frame a] :=
  does_perform fun _ => rfl

theorem does_readMerge :
    Does vcs linter vcs.readMerge fun es a => es = [.readMergeState a] :=
  does_perform fun _ => rfl

theorem does_writeMerge (merge : MergeState) :
    Does vcs linter (vcs.writeMerge merge) fun es a => es = [.writeMergeState merge a] :=
  does_perform fun _ => rfl

end VersionControl

theorem Linter.does_run (path : String) (mode : Option String) :
    Act.Does vcs linter (linter.run path mode) fun es a => es = [.lint path mode a] :=
  Act.does_perform fun _ => rfl

/-! ## One call for each of some things -/

/-- Where each of some calls belongs to one of some things, in order, any of them does. -/
theorem exists_of_mem_forall₂ {α β : Type} {R : α → β → Prop} {xs : List α} {ys : List β} {y : β}
    (h : List.Forall₂ R xs ys) (hy : y ∈ ys) : ∃ x ∈ xs, R x y := by
  induction h with
  | nil => cases hy
  | @cons x y' xs ys hxy _ ih =>
    rcases List.mem_cons.mp hy with rfl | hy
    · exact ⟨x, List.mem_cons_self, hxy⟩
    · obtain ⟨x', hx', hR⟩ := ih hy
      exact ⟨x', List.mem_cons_of_mem _ hx', hR⟩

/-! ## Messages left out

What is said on the console is part of the record, but most statements are about
what was done. -/

/-- Whether an event is a message. -/
def Event.isMessage : Event → Bool
  | .say _ => true
  | _ => false

/-- The calls of a record: all of it but the messages. -/
def calls (es : List Event) : List Event := es.filter fun e => !e.isMessage

@[simp] theorem calls_nil : calls [] = [] := rfl

@[simp] theorem calls_append (es es' : List Event) : calls (es ++ es') = calls es ++ calls es' :=
  List.filter_append _ _

@[simp] theorem calls_say (message : Console.Message) (es : List Event) :
    calls (.say message :: es) = calls es := rfl

/-- The calls of a true record are one. -/
theorem History.calls {σ : Type} {vcs : VersionControl σ} {linter : Linter σ} {es : List Event}
    {w w' : σ} (h : History vcs linter es w w') : History vcs linter (LintGate.calls es) w w' := by
  induction es generalizing w with
  | nil => exact h
  | cons e es ih =>
    obtain ⟨v, he, hes⟩ := h
    rw [LintGate.calls, List.filter_cons]
    split
    · exact ⟨v, he, ih hes⟩
    · -- a message, which touches no world
      cases e with
      | say message =>
        have hv : v = w := he
        rw [← hv]
        exact ih hes
      | _ => contradiction

theorem mem_calls {e : Event} {es : List Event} : e ∈ calls es ↔ e ∈ es ∧ e.isMessage = false := by
  rw [calls, List.mem_filter, Bool.not_eq_true']

end LintGate
