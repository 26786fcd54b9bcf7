/-
The parts of a run.

The working tree changes between the two sides, and by calls that are no lint calls. So
the calls of a run are told apart in five parts: the opening that ends in the unstaged
changes being set aside, the lint calls of the committed side, what sets the staged changes
aside, the lint calls of the baseline, and the way back (`Parts`). `Parts.Apart` says what
stands in which part, and `Course.parts` that every run over commits falls into such parts,
wherever it ends. When both changes were set aside and no call ended the linting, both
sides were linted through.
-/
import LintGate.Proofs.Snapshot.Results

set_option autoImplicit false

namespace LintGate

/-! ## Kinds of calls -/

/-- Whether an event is a lint call. -/
def Event.isLint : Event → Bool
  | .lint .. => true
  | _ => false

/-- Whether an event is a failure that ends the linting. -/
def Event.isFatal : Event → Bool
  | .lint _ _ (.error e) => !e.isPerFile
  | _ => false

/-- Whether an event sets the staged changes aside. -/
def Event.setsStagedAside : Event → Bool
  | .saveFrame label false (.ok _) => label == stagedLabel
  | _ => false

/-- A call of the way back. -/
def Event.Restores : Event → Prop
  | .applyFrame .. => True
  | .dropFrame .. => True
  | .writeMergeState .. => True
  | _ => False

theorem Event.Restores.not_isLint {e : Event} (h : e.Restores) : e.isLint = false := by
  cases e <;> first | rfl | exact h.elim

theorem Event.Restores.not_setsStagedAside {e : Event} (h : e.Restores) :
    e.setsStagedAside = false := by
  cases e <;> first | rfl | exact h.elim

theorem Event.not_isMessage_of_setsStagedAside {e : Event} (h : e.setsStagedAside = true) :
    e.isMessage = false := by
  cases e <;> first | rfl | cases h

/-- The way back consists of calls that restore. -/
theorem Isolation.Restored.restores {merge : Option MergeState} {frames : List Frame}
    {es : List Event} {d : Desync} (h : Restored merge frames es d) : ∀ e ∈ es, e.Restores := by
  intro e he
  obtain ⟨hback, hwritten⟩ := h
  rcases List.mem_append.mp he with he | he
  · cases hback with
    | all hdrops =>
      rcases List.mem_append.mp he with he | he
      · obtain ⟨frame, -, rfl⟩ := List.mem_map.mp he
        exact trivial
      · obtain ⟨frame, -, answer, rfl⟩ := exists_of_mem_forall₂ hdrops he
        exact trivial
    | stuck h =>
      rcases List.mem_append.mp he with he | he
      · obtain ⟨frame, -, rfl⟩ := List.mem_map.mp he
        exact trivial
      · rw [List.mem_singleton.mp he]
        exact trivial
  · cases hwritten with
    | none => cases he
    | written =>
      rw [List.mem_singleton.mp he]
      exact trivial
    | lost =>
      rw [List.mem_singleton.mp he]
      exact trivial

namespace Snapshot

variable {mode : Option String} {files : StagedFiles}

/-! ## The parts of a run -/

/-- The calls of a run, told apart. -/
structure Parts where
  opening : List Event
  committed : List Event := []
  between : List Event := []
  baseline : List Event := []
  back : List Event := []

/-- All calls of a run. -/
def Parts.all (p : Parts) : List Event :=
  p.opening ++ p.committed ++ p.between ++ p.baseline ++ p.back

/-- The calls lint paths of a list, from its front and in order. -/
def Lints (mode : Option String) (paths : List String) (es : List Event) : Prop :=
  ∃ front, front <+: paths ∧
    List.Forall₂ (fun path e => ∃ answer, e = Event.lint path mode answer) front es

/-- What stands in which part. -/
structure Parts.Apart (mode : Option String) (files : StagedFiles) (p : Parts) : Prop where
  /-- The committed side: modified and copied files, then added ones, then renamed ones. -/
  committed : Lints mode files.currentPaths p.committed
  /-- The baseline: modified and copied files, then renamed ones by their old names. -/
  baseline : Lints mode (baselinePaths files) p.baseline
  /-- A path of an added file is linted at the baseline only if it is one of another file too. -/
  added : ∀ path ∈ files.added, path ∉ baselinePaths files →
    ∀ mode' answer, .lint path mode' answer ∉ p.baseline
  /-- The other parts do not lint. -/
  no_lint : ∀ e ∈ p.opening ++ p.between ++ p.back, e.isLint = false
  /-- The way back begins with the last part, and nothing else stands there. -/
  not_begun : ∀ e ∈ p.opening ++ p.between, ¬e.Restores
  restores : ∀ e ∈ p.back, e.Restores
  /-- The committed side is linted behind the unstaged changes. -/
  unstaged_aside : p.committed ≠ [] →
    ∃ front frame, p.opening = front ++ [.saveFrame unstagedLabel true (.ok frame)]
  /-- Staged changes are not set aside before the committed side is linted. -/
  staged_in_place : ∀ keepIndex answer, .saveFrame stagedLabel keepIndex answer ∉ p.opening
  /-- The baseline is linted behind the staged changes. -/
  staged_aside : p.baseline ≠ [] →
    ∃ frame, p.between = [.saveFrame stagedLabel false (.ok frame)]

theorem lints_nil (mode : Option String) (paths : List String) : Lints mode paths [] :=
  ⟨[], List.nil_prefix, .nil⟩

theorem LintedAll.calls {paths : List String} {es : List Event} (h : LintedAll mode paths es) :
    List.Forall₂ (fun path e => ∃ answer, e = Event.lint path mode answer) paths es :=
  h.imp fun _ _ ⟨answer, he, _⟩ => ⟨answer, he⟩

theorem LintedAll.lints {paths : List String} {es : List Event} (h : LintedAll mode paths es) :
    Lints mode paths es :=
  ⟨paths, List.prefix_rfl, h.calls⟩

theorem LintedUpTo.lints {paths : List String} {es : List Event} {e : LintError}
    (h : LintedUpTo mode paths es e) : Lints mode paths es := by
  obtain ⟨front, path, rest, es', rfl, hfront, -, rfl⟩ := h
  exact ⟨front ++ [path], ⟨rest, by simp⟩, List.rel_append hfront.calls (.cons ⟨_, rfl⟩ .nil)⟩

theorem Committed.linted {es : List Event} {s : Snapshots} (h : Committed mode files es s) :
    LintedAll mode files.currentPaths es := by
  obtain ⟨m, a, r, rfl, hm, ha, hr, -⟩ := h
  exact (hm.append ha).append hr

theorem Baseline.linted {es : List Event} {s s' : Snapshots} (h : Baseline mode files es s s') :
    LintedAll mode (baselinePaths files) es := by
  obtain ⟨m, r, rfl, hm, hr, -⟩ := h
  exact hm.append hr

/-- Each call of some lint calls is on one of the paths. -/
theorem Lints.mem_of_lint {paths : List String} {es : List Event} {path : String}
    {mode' : Option String} {answer : Except LintError (Option LintResult)} (h : Lints mode paths es)
    (he : .lint path mode' answer ∈ es) : path ∈ paths := by
  obtain ⟨front, hfront, hes⟩ := h
  obtain ⟨path', hpath', answer', heq⟩ := exists_of_mem_forall₂ hes he
  obtain ⟨rfl, -, -⟩ := Event.lint.inj heq
  exact hfront.subset hpath'

/-- Both sides linted through, to these results. -/
def Parts.Yields (mode : Option String) (files : StagedFiles) (p : Parts) (snap : Snapshots) : Prop :=
  ∃ s, Committed mode files p.committed s ∧ Baseline mode files p.baseline s snap

/-! ## Every run falls into parts -/

/-- The parts of a run that set the unstaged changes aside. -/
def lintedParts (merge : Option MergeState) (frame : Option Frame)
    (committed between baseline back : List Event) : Parts where
  opening := [.hasCommits (.ok true), .readMergeState (.ok merge),
    .saveFrame unstagedLabel true (.ok frame)]
  committed := committed
  between := between
  baseline := baseline
  back := back

theorem unstagedLabel_ne : unstagedLabel ≠ stagedLabel := by decide

theorem lintedParts_apart (merge : Option MergeState) (frame : Option Frame)
    {committed between baseline back : List Event}
    (hcommitted : Lints mode files.currentPaths committed)
    (hbetween : between = [] ∨ ∃ answer, between = [.saveFrame stagedLabel false answer])
    (hbaseline : Lints mode (baselinePaths files) baseline)
    (haside : baseline ≠ [] → ∃ frame, between = [.saveFrame stagedLabel false (.ok frame)])
    (hback : ∀ e ∈ back, e.Restores) :
    (lintedParts merge frame committed between baseline back).Apart mode files := by
  have hmiddle : ∀ e ∈ between, e.isLint = false ∧ ¬e.Restores := by
    rintro e he
    rcases hbetween with rfl | ⟨answer, rfl⟩
    · cases he
    · rw [List.mem_singleton.mp he]
      exact ⟨rfl, id⟩
  refine ⟨hcommitted, hbaseline, fun _ _ hpath _ _ he => hpath (hbaseline.mem_of_lint he),
    fun e he => ?_, fun e he => ?_, hback,
    fun _ => ⟨[.hasCommits (.ok true), .readMergeState (.ok merge)], frame, rfl⟩, ?_, haside⟩
  · simp only [lintedParts, List.mem_append, List.mem_cons, List.not_mem_nil, or_false] at he
    rcases he with ((rfl | rfl | rfl) | he) | he
    exacts [rfl, rfl, rfl, (hmiddle e he).1, (hback e he).not_isLint]
  · simp only [lintedParts, List.mem_append, List.mem_cons, List.not_mem_nil, or_false] at he
    rcases he with (rfl | rfl | rfl) | he
    exacts [id, id, id, (hmiddle e he).2]
  · intro keepIndex answer he
    simp only [lintedParts, List.mem_cons, List.not_mem_nil, or_false, reduceCtorEq, false_or,
      Event.saveFrame.injEq] at he
    exact unstagedLabel_ne he.1.symm

/-- The parts of a run that did not come to lint anything. -/
theorem opening_apart {opening back : List Event}
    (hopening : ∀ e ∈ opening, e.isLint = false ∧ ¬e.Restores ∧
      ∀ keepIndex answer, e ≠ .saveFrame stagedLabel keepIndex answer)
    (hback : ∀ e ∈ back, e.Restores) : Parts.Apart mode files { opening, back } := by
  refine ⟨lints_nil _ _, lints_nil _ _, fun _ _ _ _ _ => List.not_mem_nil, fun e he => ?_,
    fun e he => ?_, hback, fun h => absurd rfl h,
    fun keepIndex answer he => (hopening _ he).2.2 keepIndex answer rfl, fun h => absurd rfl h⟩
  · simp only [List.append_nil, List.mem_append] at he
    rcases he with he | he
    exacts [(hopening e he).1, (hback e he).not_isLint]
  · rw [List.append_nil] at he
    exact (hopening e he).2.1

/-- The failure that ended the linting stands among the calls. -/
theorem LintedUpTo.exists_fatal {paths : List String} {es : List Event} {e : LintError}
    (h : LintedUpTo mode paths es e) : ∃ failure ∈ es, failure.isFatal = true := by
  obtain ⟨front, path, rest, es', -, -, hfatal, rfl⟩ := h
  refine ⟨_, List.mem_append_right _ (List.mem_singleton_self _), ?_⟩
  rw [Event.isFatal, hfatal]
  rfl

/-- **An isolation falls into parts**, wherever it ends. If the staged changes were set aside and no
call ended the linting, both sides were linted through. -/
theorem Inside.parts {inside back : List Event} {unstaged staged : Option Frame}
    {linted : Except RunError Snapshots} (h : Inside mode files inside unstaged staged linted)
    (merge : Option MergeState) (hback : ∀ e ∈ back, e.Restores) :
    ∃ p : Parts, .hasCommits (.ok true) :: .readMergeState (.ok merge) :: (inside ++ back) = p.all ∧
      p.Apart mode files ∧
      ((∃ e ∈ inside, e.setsStagedAside = true) → (∀ e ∈ inside, e.isFatal = false) →
        ∃ snap, linted = .ok snap ∧ p.Yields mode files snap) := by
  cases h with
  | @unstagedRefused e =>
    refine ⟨{ opening := [.hasCommits (.ok true), .readMergeState (.ok merge),
      .saveFrame unstagedLabel true (.error e)], back }, by simp [Parts.all], opening_apart ?_ hback, ?_⟩
    · simp [Event.isLint, Event.Restores, unstagedLabel_ne]
    · rintro ⟨e', he', haside⟩
      rw [List.mem_singleton.mp he'] at haside
      cases haside
  | @committedAborted _ es e h =>
    refine ⟨lintedParts merge unstaged es [] [] back, by simp [Parts.all, lintedParts],
      lintedParts_apart _ _ h.lints (.inl rfl) (lints_nil _ _) (fun h => absurd rfl h) hback, ?_⟩
    intro _ hconfined
    obtain ⟨failure, hmem, hfatal⟩ := h.exists_fatal
    rw [hconfined failure (List.mem_cons_of_mem _ hmem)] at hfatal
    cases hfatal
  | @stagedRefused _ es s e h =>
    refine ⟨lintedParts merge unstaged es [.saveFrame stagedLabel false (.error e)] [] back,
      by simp [Parts.all, lintedParts],
      lintedParts_apart _ _ h.linted.lints (.inr ⟨_, rfl⟩) (lints_nil _ _) (fun h => absurd rfl h) hback,
      ?_⟩
    rintro ⟨e', he', haside⟩
    rcases List.mem_cons.mp he' with rfl | he'
    · cases haside
    rcases List.mem_append.mp he' with he' | he'
    · obtain ⟨path, answer, rfl⟩ := h.exists_of_mem he'
      cases haside
    · rw [List.mem_singleton.mp he'] at haside
      cases haside
  | @baselineAborted _ _ es es' s e h h' =>
    refine ⟨lintedParts merge unstaged es [.saveFrame stagedLabel false (.ok staged)] es' back,
      by simp [Parts.all, lintedParts],
      lintedParts_apart _ _ h.linted.lints (.inr ⟨_, rfl⟩) h'.lints (fun _ => ⟨_, rfl⟩) hback, ?_⟩
    intro _ hconfined
    obtain ⟨failure, hmem, hfatal⟩ := h'.exists_fatal
    rw [hconfined failure (by simp [hmem])] at hfatal
    cases hfatal
  | @both _ _ es es' s s' h h' =>
    exact ⟨lintedParts merge unstaged es [.saveFrame stagedLabel false (.ok staged)] es' back,
      by simp [Parts.all, lintedParts],
      lintedParts_apart _ _ h.linted.lints (.inr ⟨_, rfl⟩) h'.linted.lints (fun _ => ⟨_, rfl⟩) hback,
      fun _ _ => ⟨s', rfl, s, h, h'⟩⟩

/-- **Every run over commits falls into parts.** If the staged changes were set aside and no call ended
the linting, both sides were linted through, and the answer is what they yield unless the way back
was incomplete. -/
theorem Course.parts {es : List Event} {r : Except RunError Snapshots} (h : Course mode files es r)
    (hcommits : ∀ answer rest, es = .hasCommits answer :: rest → answer = .ok true) :
    ∃ p : Parts, es = p.all ∧ p.Apart mode files ∧
      ((∃ e ∈ es, e.setsStagedAside = true) → (∀ e ∈ es, e.isFatal = false) →
        ∃ snap, p.Yields mode files snap ∧
          (r = .ok snap ∨ (∃ d, r = .error (.desync d)) ∧ ∃ e ∈ es, Isolation.FailsRestoring e)) := by
  cases h with
  | headUnread => cases hcommits _ _ rfl
  | unborn => cases hcommits _ _ rfl
  | unbornAborted => cases hcommits _ _ rfl
  | @mergeUnread e =>
    refine ⟨{ opening := [.hasCommits (.ok true), .readMergeState (.error e)] }, rfl,
      opening_apart ?_ (fun _ he => absurd he List.not_mem_nil), ?_⟩
    · simp [Event.isLint, Event.Restores]
    · simp [Event.setsStagedAside]
  | @isolated merge inside back unstaged staged linted d h h' =>
    obtain ⟨p, hp, hapart, hyields⟩ := h.parts merge h'.restores
    refine ⟨p, hp, hapart, ?_⟩
    rintro ⟨e, he, haside⟩ hconfined
    -- the way back sets nothing aside
    have hinside : e ∈ inside := by
      rcases List.mem_cons.mp he with rfl | he
      · cases haside
      rcases List.mem_cons.mp he with rfl | he
      · cases haside
      refine (List.mem_append.mp he).resolve_right fun hback => ?_
      rw [(h'.restores e hback).not_setsStagedAside] at haside
      cases haside
    obtain ⟨snap, rfl, hsnap⟩ := hyields ⟨e, hinside, haside⟩ fun e he =>
      hconfined e (by simp [he])
    refine ⟨snap, hsnap, ?_⟩
    rw [settled]
    split
    · exact .inl rfl
    next hclean =>
      rw [h'.isClean_iff] at hclean
      push Not at hclean
      obtain ⟨e, he, hfails⟩ := hclean
      exact .inr ⟨⟨d, rfl⟩, e, by simp [he], hfails⟩

end Snapshot

end LintGate
