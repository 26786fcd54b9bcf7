/-
The one course that taking both sides follows.

`Course` is the language of the calls a run makes while it lints both sides, together
with the answer each sequence of calls leads to. It is written down once, one
constructor for each way the run can go, and each of these is fixed by the answers of
the collaborators: where the run ends early, what is set aside, and the way back.
`does_take` says that linting both sides stays in this language, whatever the version
control and the linter do; the last theorem says so of a session, with the exact
condition under which the answer is an incomplete restoration.

Other properties of a run (that no frame is lost, that a merge survives) are read off
the language and do not look at the program again.
-/
import LintGate.Proofs.Isolation.Steps
import LintGate.Proofs.Snapshot.Linting

set_option autoImplicit false

namespace LintGate

/-- A call that only asks: nothing is set aside, brought back or written. -/
inductive Event.Asks : Event → Prop where
  | hasCommits {answer : Except VcsError Bool} : Asks (.hasCommits answer)
  | readMergeState {answer : Except VcsError (Option MergeState)} : Asks (.readMergeState answer)
  | lint {path : String} {mode : Option String} {answer : Except LintError (Option LintResult)} :
      Asks (.lint path mode answer)

namespace Snapshot

open Act

variable {σ : Type} {vcs : VersionControl σ} {linter : Linter σ} {mode : Option String}

/-! ## The language -/

/-- From the first frame to the last lint call: the calls, the frames that are held at the end, and
what came of the linting. A save that fails may still leave a frame. -/
inductive Inside (mode : Option String) (files : StagedFiles) :
    List Event → Option Frame → Option Frame → Except RunError Snapshots → Prop where
  /-- The unstaged changes could not be set aside. -/
  | unstagedRefused {e : SaveError} :
      Inside mode files [.saveFrame unstagedLabel true (.error e)] e.held none
        (.error (.isolation .unstaged e.error))
  /-- The linting of the committed side was ended. -/
  | committedAborted {frame : Option Frame} {es : List Event} {e : LintError}
      (h : LintedUpTo mode files.currentPaths es e) :
      Inside mode files (.saveFrame unstagedLabel true (.ok frame) :: es) frame none
        (.error (.linter e))
  /-- The staged changes could not be set aside. -/
  | stagedRefused {frame : Option Frame} {es : List Event} {s : Snapshots} {e : SaveError}
      (h : Committed mode files es s) :
      Inside mode files
        (.saveFrame unstagedLabel true (.ok frame) :: (es ++ [.saveFrame stagedLabel false (.error e)]))
        frame e.held (.error (.isolation .staged e.error))
  /-- The linting of the baseline was ended. -/
  | baselineAborted {frame frame' : Option Frame} {es es' : List Event} {s : Snapshots} {e : LintError}
      (h : Committed mode files es s) (h' : LintedUpTo mode (baselinePaths files) es' e) :
      Inside mode files
        (.saveFrame unstagedLabel true (.ok frame)
          :: (es ++ .saveFrame stagedLabel false (.ok frame') :: es'))
        frame frame' (.error (.linter e))
  /-- Both sides were linted. -/
  | both {frame frame' : Option Frame} {es es' : List Event} {s s' : Snapshots}
      (h : Committed mode files es s) (h' : Baseline mode files es' s s') :
      Inside mode files
        (.saveFrame unstagedLabel true (.ok frame)
          :: (es ++ .saveFrame stagedLabel false (.ok frame') :: es'))
        frame frame' (.ok s')

/-- What a run answers when its workspace was brought back: an incomplete restoration goes before
what came of the linting. -/
def settled (linted : Except RunError Snapshots) (d : Desync) : Except RunError Snapshots :=
  if d.isClean then linted else .error (.desync d)

/-- The calls of a run over files that have a linter, and its answer. -/
inductive Course (mode : Option String) (files : StagedFiles) :
    List Event → Except RunError Snapshots → Prop where
  /-- It cannot be told whether there are commits. -/
  | headUnread {e : VcsError} :
      Course mode files [.hasCommits (.error e)]
        (.error (.environment ("failed to read HEAD: " ++ e.text)))
  /-- Without a commit the tree is linted as it is. -/
  | unborn {es : List Event} {s : Snapshots} (h : Committed mode files es s) :
      Course mode files (.hasCommits (.ok false) :: es) (.ok s)
  /-- That linting was ended. -/
  | unbornAborted {es : List Event} {e : LintError} (h : LintedUpTo mode files.currentPaths es e) :
      Course mode files (.hasCommits (.ok false) :: es) (.error (.linter e))
  /-- The record of a merge could not be read. -/
  | mergeUnread {e : VcsError} :
      Course mode files [.hasCommits (.ok true), .readMergeState (.error e)]
        (.error (.environment ("failed to read merge state: " ++ e.text)))
  /-- The isolation was entered, and left again by the way back. -/
  | isolated {merge : Option MergeState} {inside back : List Event} {unstaged staged : Option Frame}
      {linted : Except RunError Snapshots} {d : Desync}
      (h : Inside mode files inside unstaged staged linted)
      (h' : Isolation.Restored merge (unstaged.toList ++ staged.toList) back d) :
      Course mode files
        (.hasCommits (.ok true) :: .readMergeState (.ok merge) :: (inside ++ back))
        (settled linted d)

/-- The calls of a run over any files: none at all when no file has a linter. -/
def Runs (linter : Linter σ) (mode : Option String) (files : StagedFiles) (es : List Event)
    (r : Except RunError Snapshots) : Prop :=
  if files.currentPaths.any fun p => linter.handles p mode then Course mode files es r
  else es = [] ∧ r = .ok {}

/-! ## The steps stay in it -/

/-- The linting of both sides: it stays inside the language, and the isolation it hands back holds
the frames the language names and the record of the merge it was given. -/
theorem does_lintIsolated (files : StagedFiles) (i : Isolation) (hstaged : i.staged = none) :
    Does vcs linter (lintIsolated vcs linter mode files i) fun es r =>
      Inside mode files (calls es) r.2.unstaged r.2.staged r.1 ∧ r.2.merge = i.merge := by
  refine Does.bind (Isolation.does_isolate .unstaged i) fun es r h => ?_
  generalize hes : calls es = cs at h
  cases h with
  | refused =>
    -- a frame that was recorded all the same is the only one
    refine does_pure ⟨?_, rfl⟩
    rw [List.append_nil, hes]
    dsimp only [Isolation.hold]
    rw [hstaged]
    exact .unstagedRefused
  | done =>
  refine Does.bind (does_lintCurrent files) ?_
  rintro es₁ ⟨s, _ | failure⟩ h₁
  swap
  · -- the committed side was not linted through, and the staged changes stay
    obtain ⟨e, rfl, h₁⟩ := h₁
    refine does_pure ⟨?_, rfl⟩
    rw [List.append_nil, calls_append, hes]
    dsimp only [Isolation.hold]
    rw [hstaged]
    exact .committedAborted h₁
  refine Does.bind (Isolation.does_isolate .staged _) fun es₂ r h₂ => ?_
  generalize hes₂ : calls es₂ = cs at h₂
  cases h₂ with
  | refused =>
    refine does_pure ⟨?_, rfl⟩
    rw [List.append_nil, calls_append, calls_append, hes, hes₂]
    exact .stagedRefused h₁
  | done =>
  -- nothing was found at the baseline so far
  obtain ⟨m, a, r, hm⟩ := h₁
  have hbaseline : s.baseline = {} ∧ s.baselineRenamed = {} := by
    rw [hm.2.2.2.2]
    exact ⟨rfl, rfl⟩
  refine Does.bind (does_lintBaseline files s hbaseline.1 hbaseline.2) ?_
  rintro es₃ ⟨s', _ | failure⟩ h₃
  · refine does_pure ⟨?_, rfl⟩
    rw [List.append_nil, calls_append, calls_append, calls_append, hes, hes₂]
    exact .both ⟨m, a, r, hm⟩ h₃
  · obtain ⟨e, rfl, h₃⟩ := h₃
    refine does_pure ⟨?_, rfl⟩
    rw [List.append_nil, calls_append, calls_append, calls_append, hes, hes₂]
    exact .baselineAborted ⟨m, a, r, hm⟩ h₃

theorem does_release (i : Isolation) :
    Does vcs linter (Isolation.release vcs i) fun es r =>
      ∃ d, Isolation.Restored i.merge i.frames (calls es) d ∧
        r = if d.isClean then .ok () else .error (.desync d) := by
  refine Does.bind (Isolation.does_restore i) fun es d h => does_pure ⟨d, ?_, rfl⟩
  rw [List.append_nil]
  exact h

theorem does_settle (linted : Except RunError Snapshots) (d : Desync) :
    Does vcs linter
      (settle linted (if d.isClean then .ok () else .error (.desync d)) : Act σ _) fun es r =>
        calls es = [] ∧ r = settled linted d := by
  rw [settled]
  split
  · exact does_pure ⟨rfl, rfl⟩
  · cases linted with
    | ok s => exact does_pure ⟨rfl, rfl⟩
    | error e =>
      refine Does.bind (does_line _ _) ?_
      rintro _ _ rfl
      exact does_pure ⟨rfl, rfl⟩

variable (vcs linter mode) in
/-- **Linting both sides stays in the language**, whatever the collaborators do. -/
theorem does_take (files : StagedFiles) (verbose : Bool) :
    Does vcs linter (take vcs linter mode files verbose) fun es r =>
      Runs linter mode files (calls es) r := by
  rw [take]
  by_cases hany : (files.currentPaths.any fun p => linter.handles p mode) = true
  swap
  · -- no file has a linter
    rw [Bool.not_eq_true] at hany
    simp only [hany, Bool.not_false, if_true, Runs, Bool.false_eq_true, if_false]
    exact does_pure ⟨rfl, rfl⟩
  simp only [hany, Bool.not_true, Bool.false_eq_true, if_false, Runs, if_true]
  refine Does.bind VersionControl.does_askHasCommits ?_
  rintro _ answer rfl
  match answer with
  | .error e => exact does_pure .headUnread
  | .ok false =>
    refine Does.bind (does_line _ _) ?_
    rintro _ _ rfl
    refine Does.bind (does_lintCurrent files) ?_
    rintro es ⟨s, _ | failure⟩ h
    · refine does_pure ?_
      simp only [List.append_nil]
      exact .unborn h
    · obtain ⟨e, rfl, h⟩ := h
      refine does_pure ?_
      simp only [List.append_nil]
      exact .unbornAborted h
  | .ok true =>
    refine Does.bind (Isolation.does_capture verbose) fun es r h => ?_
    generalize hes : calls es = cs at h
    cases h with
    | unread =>
      refine does_pure ?_
      rw [List.append_nil, calls_append, hes]
      exact .mergeUnread
    | read =>
    refine Does.bind (does_lintIsolated files _ rfl) ?_
    rintro es₁ ⟨linted, i⟩ ⟨hinside, hmerge⟩
    refine Does.bind (does_release i) ?_
    rintro es₂ _ ⟨d, hback, rfl⟩
    refine (does_settle linted d).mono ?_
    rintro es₃ _ ⟨hes₃, rfl⟩
    rw [calls_append, calls_append, calls_append, calls_append, hes, hes₃, List.append_nil,
      List.singleton_append]
    rw [hmerge] at hback
    exact .isolated hinside hback

/-! ## What an isolation does before the way back -/

/-- Until the way back, changes are set aside and files are linted, and nothing else is done. -/
theorem Inside.save_or_lint {files : StagedFiles} {es : List Event} {unstaged staged : Option Frame}
    {linted : Except RunError Snapshots} {e : Event} (h : Inside mode files es unstaged staged linted)
    (he : e ∈ es) :
    (∃ label keepIndex answer, e = .saveFrame label keepIndex answer) ∨
      ∃ path answer, e = .lint path mode answer := by
  cases h with
  | unstagedRefused => exact .inl ⟨_, _, _, List.mem_singleton.mp he⟩
  | committedAborted h =>
    rcases List.mem_cons.mp he with rfl | he
    · exact .inl ⟨_, _, _, rfl⟩
    · exact .inr (h.exists_of_mem he)
  | stagedRefused h =>
    rcases List.mem_cons.mp he with rfl | he
    · exact .inl ⟨_, _, _, rfl⟩
    rcases List.mem_append.mp he with he | he
    · exact .inr (h.exists_of_mem he)
    · exact .inl ⟨_, _, _, List.mem_singleton.mp he⟩
  | baselineAborted h h' =>
    rcases List.mem_cons.mp he with rfl | he
    · exact .inl ⟨_, _, _, rfl⟩
    rcases List.mem_append.mp he with he | he
    · exact .inr (h.exists_of_mem he)
    rcases List.mem_cons.mp he with rfl | he
    · exact .inl ⟨_, _, _, rfl⟩
    · exact .inr (h'.exists_of_mem he)
  | both h h' =>
    rcases List.mem_cons.mp he with rfl | he
    · exact .inl ⟨_, _, _, rfl⟩
    rcases List.mem_append.mp he with he | he
    · exact .inr (h.exists_of_mem he)
    rcases List.mem_cons.mp he with rfl | he
    · exact .inl ⟨_, _, _, rfl⟩
    · exact .inr (h'.exists_of_mem he)

theorem Inside.not_failsRestoring {files : StagedFiles} {es : List Event}
    {unstaged staged : Option Frame} {linted : Except RunError Snapshots} {e : Event}
    (h : Inside mode files es unstaged staged linted) (he : e ∈ es) : ¬Isolation.FailsRestoring e := by
  rcases h.save_or_lint he with ⟨label, keepIndex, answer, rfl⟩ | ⟨path, answer, rfl⟩
  · exact id
  · exact id

/-- What comes of the linting is never an incomplete restoration. -/
theorem Inside.ne_desync {files : StagedFiles} {es : List Event} {unstaged staged : Option Frame}
    {linted : Except RunError Snapshots} (h : Inside mode files es unstaged staged linted)
    (d : Desync) : linted ≠ .error (.desync d) := by
  cases h <;> rintro ⟨⟩

/-! ## Courses with and without an isolation -/

/-- Without a commit, the calls ask for it and lint. -/
theorem asks_of_lints {es : List Event} (h : ∀ e ∈ es, ∃ path answer, e = .lint path mode answer) :
    ∀ e ∈ .hasCommits (.ok false) :: es, e.Asks := by
  intro e he
  rcases List.mem_cons.mp he with rfl | he
  · exact .hasCommits
  · obtain ⟨path, answer, rfl⟩ := h e he
    exact .lint

/-- A course either asks only, and then it does not end in an incomplete restoration, or it enters an
isolation. -/
theorem Course.asks_or_isolated {files : StagedFiles} {es : List Event}
    {r : Except RunError Snapshots} (h : Course mode files es r) :
    ((∀ e ∈ es, e.Asks) ∧ ∀ d, r ≠ .error (.desync d)) ∨
    ∃ merge inside back unstaged staged linted d, Inside mode files inside unstaged staged linted ∧
      Isolation.Restored merge (unstaged.toList ++ staged.toList) back d ∧
      es = .hasCommits (.ok true) :: .readMergeState (.ok merge) :: (inside ++ back) ∧
      r = settled linted d := by
  cases h with
  | headUnread =>
    refine .inl ⟨fun e he => ?_, by rintro d ⟨⟩⟩
    rw [List.mem_singleton.mp he]
    exact .hasCommits
  | unborn h => exact .inl ⟨asks_of_lints fun e he => h.exists_of_mem he, by rintro d ⟨⟩⟩
  | unbornAborted h => exact .inl ⟨asks_of_lints fun e he => h.exists_of_mem he, by rintro d ⟨⟩⟩
  | mergeUnread =>
    refine .inl ⟨fun e he => ?_, by rintro d ⟨⟩⟩
    rcases List.mem_cons.mp he with rfl | he
    · exact .hasCommits
    · rw [List.mem_singleton.mp he]
      exact .readMergeState
  | isolated h h' => exact .inr ⟨_, _, _, _, _, _, _, h, h', rfl, rfl⟩

/-! ## The statement for a session -/

/-- The answer is an incomplete restoration exactly when one of the calls left it incomplete. -/
theorem Course.desync_iff {files : StagedFiles} {es : List Event} {r : Except RunError Snapshots}
    (h : Course mode files es r) :
    (∃ d, r = .error (.desync d)) ↔ ∃ e ∈ es, Isolation.FailsRestoring e := by
  rcases h.asks_or_isolated with ⟨hasks, hne⟩ |
    ⟨merge, inside, back, unstaged, staged, linted, d, hinside, hback, rfl, rfl⟩
  · refine iff_of_false ?_ ?_
    · rintro ⟨d, hd⟩
      exact hne d hd
    · rintro ⟨e, he, hfails⟩
      cases hasks e he <;> exact hfails
  have hdesync : (∃ d', settled linted d = .error (.desync d')) ↔ ¬d.isClean = true := by
    rw [settled]
    split
    · refine iff_of_false ?_ (fun hd => hd ‹_›)
      rintro ⟨d', hd'⟩
      exact hinside.ne_desync d' hd'
    · exact iff_of_true ⟨d, rfl⟩ ‹_›
  rw [hdesync, hback.isClean_iff]
  push Not
  constructor
  · rintro ⟨e, he, hfails⟩
    exact ⟨e, by simp [he], hfails⟩
  · -- of the calls in front of the way back none fails to restore
    rintro ⟨e, he, hfails⟩
    rcases List.mem_cons.mp he with rfl | he
    · exact hfails.elim
    rcases List.mem_cons.mp he with rfl | he
    · exact hfails.elim
    rcases List.mem_append.mp he with he | he
    · exact absurd hfails (hinside.not_failsRestoring he)
    · exact ⟨e, he, hfails⟩

variable (vcs linter mode) in
/-- **One protocol.** Linting both sides of a commit appends the calls of one course and answers what
that course leads to, whatever the version control and the linter do. No call at all is made when no
file has a linter; otherwise the answer is an incomplete restoration exactly when a frame was not
reapplied or the record of the merge was not written. -/
theorem take_follows_course (files : StagedFiles) (verbose : Bool) (s : Session σ) :
    ∃ es, (take vcs linter mode files verbose s).2.events = s.events ++ es ∧
      Runs linter mode files (calls es) (take vcs linter mode files verbose s).1 ∧
      ((∃ d, (take vcs linter mode files verbose s).1 = .error (.desync d)) ↔
        ∃ e ∈ calls es, Isolation.FailsRestoring e) := by
  obtain ⟨es, hes, -, h⟩ := does_take vcs linter mode files verbose s
  refine ⟨es, hes, h, ?_⟩
  rw [Runs] at h
  split at h
  · exact h.desync_iff
  · rw [h.1, h.2]
    simp

end Snapshot

end LintGate
