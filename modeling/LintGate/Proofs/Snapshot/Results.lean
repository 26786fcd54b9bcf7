/-
Whose results a run has.

Results are kept by path. Every path stands in them once, and those of one list of files
are among the paths of that list: this is what linting leaves, and taking files out keeps
it. For the files of a commit, where each path has one role, it follows that a path has
results in one place only.

A file that a linter crashed on is taken out of both sides. A file that none crashed on
keeps what was said of it.
-/
import LintGate.Proofs.Snapshot.Course

set_option autoImplicit false

namespace LintGate

/-! ## Results by path -/

namespace Results

variable {m : Results} {path : String} {result : LintResult}

theorem get?_cons (e : String × LintResult) (entries : List (String × LintResult)) (path : String) :
    get? ⟨e :: entries⟩ path = if path = e.1 then some e.2 else get? ⟨entries⟩ path := by
  rw [get?, List.lookup_cons]
  by_cases h : path = e.1
  · simp [h]
  · rw [if_neg h, beq_false_of_ne h]
    rfl

theorem get?_replace (path other : String) (result : LintResult) (entries : List (String × LintResult)) :
    get? ⟨replace path result entries⟩ other =
      if other = path ∧ path ∈ entries.map (·.1) then some result else get? ⟨entries⟩ other := by
  induction entries with
  | nil => simp [replace]
  | cons e entries ih =>
    by_cases he : e.1 = path
    · rw [replace, if_pos he, get?_cons, get?_cons]
      by_cases hother : other = path <;> simp [he, hother]
    · rw [replace, if_neg he, get?_cons, get?_cons, ih]
      have hmem : path ∈ (e :: entries).map (·.1) ↔ path ∈ entries.map (·.1) := by
        rw [List.map_cons, List.mem_cons, or_iff_right (Ne.symm he)]
      simp only [hmem]
      by_cases hother : other = e.1
      · rw [if_pos hother, if_pos hother, if_neg fun h => he (hother.symm.trans h.1)]
      · rw [if_neg hother, if_neg hother]

theorem map_fst_replace (path : String) (result : LintResult) (entries : List (String × LintResult)) :
    (replace path result entries).map (·.1) = entries.map (·.1) := by
  induction entries with
  | nil => rfl
  | cons e entries ih =>
    rw [replace]
    split
    · rfl
    · rw [List.map_cons, List.map_cons, ih]

/-- A path is among the paths exactly when there is something under it. -/
theorem isSome_get?_iff : (m.get? path).isSome = true ↔ path ∈ m.paths := by
  rw [get?, List.lookup_isSome_iff, paths, List.mem_map]
  constructor
  · rintro ⟨e, he, hpath⟩
    exact ⟨e, he, (beq_iff_eq.mp hpath).symm⟩
  · rintro ⟨e, he, hpath⟩
    exact ⟨e, he, beq_iff_eq.mpr hpath.symm⟩

/-- Putting a result under a path adds the path at the end unless it is there. -/
theorem paths_insert (m : Results) (path : String) (result : LintResult) :
    (m.insert path result).paths = m.paths ∨
      (path ∉ m.paths ∧ (m.insert path result).paths = m.paths ++ [path]) := by
  rw [insert]
  split
  · exact .inl (map_fst_replace _ _ _)
  next hnone => exact .inr ⟨fun hmem => hnone (isSome_get?_iff.mpr hmem), List.map_append⟩

/-- Under a path there is then what was put there, and under another one what was there. -/
theorem get?_insert (m : Results) (path other : String) (result : LintResult) :
    (m.insert path result).get? other = if other = path then some result else m.get? other := by
  rw [insert]
  split
  next hsome =>
    have hmem : path ∈ m.entries.map (·.1) := isSome_get?_iff.mp hsome
    rw [get?_replace]
    simp only [hmem, and_true]
  next hnone =>
    rw [get?, List.lookup_append]
    change (m.get? other).or (get? ⟨[(path, result)]⟩ other) = _
    rw [get?_cons]
    by_cases hother : other = path
    · rw [hother, Option.not_isSome_iff_eq_none.mp hnone, if_pos rfl, if_pos rfl, Option.none_or]
    · rw [if_neg hother, if_neg hother]
      exact Option.or_none

theorem paths_erase_sublist (m : Results) (path : String) : (m.erase path).paths.Sublist m.paths :=
  List.Sublist.map _ List.eraseP_sublist

/-- Taking a path out leaves the others alone. -/
theorem get?_erase_of_ne {other : String} (m : Results) (h : path ≠ other) :
    (m.erase other).get? path = m.get? path := by
  obtain ⟨entries⟩ := m
  simp only [erase, get?]
  induction entries with
  | nil => rfl
  | cons e entries ih =>
    rw [List.eraseP_cons]
    by_cases he : e.1 = other
    · have hne : (path == e.1) = false := by
        rw [he]
        exact beq_false_of_ne h
      simp only [he, beq_self_eq_true, cond_true]
      rw [List.lookup_cons, hne]
    · have hne : (e.1 == other) = false := beq_false_of_ne he
      simp only [hne, cond_false]
      rw [List.lookup_cons, List.lookup_cons, ih]

/-- Results of distinct files, all of them in a list. -/
def Over (m : Results) (files : List String) : Prop := m.paths.Nodup ∧ ∀ p ∈ m.paths, p ∈ files

variable {files : List String}

theorem over_empty : ({} : Results).Over files :=
  ⟨List.nodup_nil, fun _ h => absurd h List.not_mem_nil⟩

theorem Over.insert (h : m.Over files) (hpath : path ∈ files) (result : LintResult) :
    (m.insert path result).Over files := by
  rcases m.paths_insert path result with hsame | ⟨hnew, hpaths⟩
  · rw [Over, hsame]
    exact h
  · rw [Over, hpaths]
    refine ⟨List.nodup_append.mpr ⟨h.1, List.pairwise_singleton _ _, ?_⟩, fun p hp => ?_⟩
    · rintro p hp q hq rfl
      exact hnew (List.mem_singleton.mp hq ▸ hp)
    · rcases List.mem_append.mp hp with hp | hp
      · exact h.2 p hp
      · rw [List.mem_singleton.mp hp]
        exact hpath

theorem Over.erase (h : m.Over files) (path : String) : (m.erase path).Over files :=
  ⟨h.1.sublist (m.paths_erase_sublist path),
    fun p hp => h.2 p ((m.paths_erase_sublist path).subset hp)⟩

/-- With distinct paths, what is found under a path is its only result. -/
theorem entries_split (h : m.paths.Nodup) (hget : m.get? path = some result) :
    ∃ before after, m.entries = before ++ (path, result) :: after ∧
      (∀ e ∈ before, e.1 ≠ path) ∧ ∀ e ∈ after, e.1 ≠ path := by
  obtain ⟨before, after, hsplit, -⟩ := List.lookup_eq_some_iff.mp hget
  rw [paths, hsplit, List.map_append, List.map_cons, List.nodup_append] at h
  obtain ⟨-, hrest, hdisjoint⟩ := h
  refine ⟨before, after, hsplit, fun e he => ?_, fun e he heq => ?_⟩
  · exact hdisjoint _ (List.mem_map_of_mem he) _ List.mem_cons_self
  · have hmem : e.1 ∈ after.map (·.1) := List.mem_map_of_mem he
    rw [heq] at hmem
    exact (List.nodup_cons.mp hrest).1 hmem

end Results

/-! ## The results of a run -/

/-- The results of the committed side, each in the role of its file. -/
structure Snapshots.Over (s : Snapshots) (files : StagedFiles) : Prop where
  current : s.current.Over files.modifiedOrCopied
  added : s.added.Over files.added
  currentRenamed : s.currentRenamed.Over files.renamedTo

namespace Snapshot

variable {mode : Option String} {files : StagedFiles}

/-- What is collected from calls on a list of files is over that list. -/
theorem gathered_over {paths : List String} {es : List Event} (h : LintedAll mode paths es) :
    (gathered es).Over paths := by
  have hstep : ∀ (es : List Event) (m : Results), m.Over paths →
      (∀ e ∈ es, ∃ path ∈ paths, ∃ answer, e = .lint path mode answer) →
      (es.foldl gather m).Over paths := by
    intro es
    induction es with
    | nil => exact fun m hm _ => hm
    | cons e es ih =>
      intro m hm hes
      refine ih _ ?_ fun e' he' => hes e' (List.mem_cons_of_mem _ he')
      obtain ⟨path, hpath, answer, rfl⟩ := hes e List.mem_cons_self
      match answer with
      | .ok (some result) => exact hm.insert hpath result
      | .ok none => exact hm
      | .error _ => exact hm
  refine hstep es {} Results.over_empty fun e he => ?_
  obtain ⟨path, hpath, answer, heq, -⟩ := h.exists_of_mem he
  exact ⟨path, hpath, answer, heq⟩

theorem Committed.over {es : List Event} {s : Snapshots} (h : Committed mode files es s) :
    s.Over files := by
  obtain ⟨m, a, r, -, hm, ha, hr, rfl⟩ := h
  exact ⟨gathered_over hm, gathered_over ha, gathered_over hr⟩

/-- The results of a course are over the files of the commit. -/
theorem Course.over {es : List Event} {s : Snapshots} (h : Course mode files es (.ok s)) :
    s.Over files := by
  generalize hr : Except.ok s = r at h
  cases h with
  | headUnread => cases hr
  | unborn h =>
    obtain rfl := Except.ok.inj hr
    exact h.over
  | unbornAborted => cases hr
  | mergeUnread => cases hr
  | @isolated merge inside back unstaged staged linted d h h' =>
    rw [settled] at hr
    split at hr
    swap
    · cases hr
    subst hr
    cases h with
    | both hcommitted hbaseline =>
      obtain ⟨m, r, -, -, -, rfl⟩ := hbaseline
      obtain ⟨hcurrent, hadded, hrenamed⟩ := hcommitted.over
      exact ⟨hcurrent, hadded, hrenamed⟩

variable {σ : Type} {vcs : VersionControl σ} {linter : Linter σ}

theorem take_over {verbose : Bool} {s s' : Session σ} {snap : Snapshots}
    (h : take vcs linter mode files verbose s = (.ok snap, s')) : snap.Over files := by
  obtain ⟨es, -, -, hruns⟩ := does_take vcs linter mode files verbose s
  rw [h, Runs] at hruns
  split at hruns
  · exact hruns.over
  · obtain rfl := Except.ok.inj hruns.2
    exact ⟨Results.over_empty, Results.over_empty, Results.over_empty⟩

end Snapshot

/-! ## Files that a linter crashed on -/

namespace Snapshots

variable {files : StagedFiles}

/-- What each exclusion keeps, excluding the files that failed keeps. -/
theorem excludeFailures_keeps {P : Snapshots → Prop} {s : Snapshots} (hs : P s)
    (hstep : ∀ t, ∀ failure ∈ s.failures, P t → P (t.exclude files failure.path)) :
    P (s.excludeFailures files) := by
  rw [excludeFailures]
  generalize hfailures : s.failures = failures at hstep
  clear hfailures
  induction failures generalizing s with
  | nil => exact hs
  | cons failure failures ih =>
    exact ih (hstep s failure List.mem_cons_self hs)
      fun t f hf => hstep t f (List.mem_cons_of_mem _ hf)

theorem Over.excludeFailures {s : Snapshots} (h : s.Over files) :
    (s.excludeFailures files).Over files :=
  excludeFailures_keeps (P := fun t => t.Over files) h fun _ failure _ ht =>
    ⟨ht.current.erase failure.path, ht.added.erase failure.path, ht.currentRenamed.erase failure.path⟩

/-- A file that no linter crashed on keeps its results under its own name. -/
theorem get?_excludeFailures (s : Snapshots) (files : StagedFiles) {path : String}
    (h : ∀ failure ∈ s.failures, failure.path ≠ path) :
    (s.excludeFailures files).current.get? path = s.current.get? path ∧
      (s.excludeFailures files).baseline.get? path = s.baseline.get? path := by
  refine excludeFailures_keeps (P := fun t => t.current.get? path = s.current.get? path ∧
    t.baseline.get? path = s.baseline.get? path) ⟨rfl, rfl⟩ ?_
  rintro t failure hfailure ⟨hcurrent, hbaseline⟩
  have hne : path ≠ failure.path := fun heq => h failure hfailure heq.symm
  exact ⟨(t.current.get?_erase_of_ne hne).trans hcurrent,
    (t.baseline.get?_erase_of_ne hne).trans hbaseline⟩

end Snapshots

end LintGate
