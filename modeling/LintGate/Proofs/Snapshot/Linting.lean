/-
Linting one side, as a relation between calls and results.

A side is linted list by list, and each list path by path. A path whose linter crashes
costs that path its result; any other failure ends the linting of the side, and then
nothing it found so far is used. So a side has two courses: `LintedAll` goes through
every path, and `LintedUpTo` stops at the failure that ended it. In both the calls are
fixed by the paths.

What was found is read off the calls: `gathered` collects the results in the order of
the calls, `crashes` the files that failed, each under its name in the commit.
`Committed` and `Baseline` say this for the two sides. `does_lintCurrent` and
`does_lintBaseline` are the two lemmas other modules use.
-/
import LintGate.Snapshots
import LintGate.Proofs.History

set_option autoImplicit false

namespace LintGate.Snapshot

open Act

variable {σ : Type} {vcs : VersionControl σ} {linter : Linter σ} {mode : Option String}

/-! ## The specification -/

/-- An answer after which the linting goes on: anything but a failure that concerns more than the
one file. -/
def Confined (answer : Except LintError (Option LintResult)) : Prop :=
  ∀ e, answer = .error e → e.isPerFile = true

/-- The calls that lint all of some paths, in order. -/
def LintedAll (mode : Option String) (paths : List String) (es : List Event) : Prop :=
  List.Forall₂ (fun path e => ∃ answer, e = .lint path mode answer ∧ Confined answer) paths es

/-- The calls that lint some paths in order, up to the one whose failure ends the linting. -/
def LintedUpTo (mode : Option String) (paths : List String) (es : List Event) (e : LintError) :
    Prop :=
  ∃ (front : List String) (path : String) (rest : List String) (es' : List Event),
    paths = front ++ path :: rest ∧ LintedAll mode front es' ∧ e.isPerFile = false ∧
      es = es' ++ [.lint path mode (.error e)]

/-- One call's result, put under its path. -/
def gather (m : Results) : Event → Results
  | .lint path _ (.ok (some result)) => m.insert path result
  | _ => m

/-- The results of some calls, in the order of the calls. -/
def gathered (es : List Event) : Results := es.foldl gather {}

/-- The failure that a call on a file is, if it is one. -/
def crash? (phase : Phase) (name : String) : Event → Option LintFailure
  | .lint _ _ (.error e) => some ⟨name, phase, e⟩
  | _ => none

/-- The files that failed, by their names in the commit. -/
def crashes (phase : Phase) (names : List String) (es : List Event) : List LintFailure :=
  (names.zip es).filterMap fun (name, e) => crash? phase name e

/-- The committed side linted through. -/
def Committed (mode : Option String) (files : StagedFiles) (es : List Event) (s : Snapshots) : Prop :=
  ∃ m a r, es = m ++ a ++ r ∧ LintedAll mode files.modifiedOrCopied m ∧
    LintedAll mode files.added a ∧ LintedAll mode files.renamedTo r ∧
    s = { current := gathered m
          added := gathered a
          currentRenamed := gathered r
          failures := crashes .lintCurrent files.modifiedOrCopied m
            ++ crashes .lintCurrent files.added a ++ crashes .lintCurrent files.renamedTo r }

/-- The paths of the baseline. Added files have none. -/
def baselinePaths (files : StagedFiles) : List String := files.modifiedOrCopied ++ files.renamedFrom

/-- The baseline linted through, after the committed side. -/
def Baseline (mode : Option String) (files : StagedFiles) (es : List Event) (s s' : Snapshots) : Prop :=
  ∃ m r, es = m ++ r ∧ LintedAll mode files.modifiedOrCopied m ∧
    LintedAll mode files.renamedFrom r ∧
    s' = { s with
      baseline := gathered m
      baselineRenamed := gathered r
      failures := s.failures ++ crashes .lintBaseline files.modifiedOrCopied m
        ++ crashes .lintBaseline files.renamedTo r }

/-! ## Courses joined -/

theorem LintedAll.append {paths paths' : List String} {es es' : List Event}
    (h : LintedAll mode paths es) (h' : LintedAll mode paths' es') :
    LintedAll mode (paths ++ paths') (es ++ es') := by
  induction h with
  | nil => exact h'
  | cons h _ ih => exact .cons h ih

/-- A list that ends the linting, after lists that were linted through. -/
theorem LintedUpTo.after {paths paths' : List String} {es es' : List Event} {e : LintError}
    (h : LintedAll mode paths es) (h' : LintedUpTo mode paths' es' e) :
    LintedUpTo mode (paths ++ paths') (es ++ es') e := by
  obtain ⟨front, path, rest, es₀, rfl, hfront, hfatal, rfl⟩ := h'
  refine ⟨paths ++ front, path, rest, es ++ es₀, ?_, h.append hfront, hfatal, ?_⟩
  · rw [List.append_assoc]
  · rw [List.append_assoc]

/-- Paths after the one that ended the linting play no part. -/
theorem LintedUpTo.before {paths : List String} {es : List Event} {e : LintError}
    (h : LintedUpTo mode paths es e) (paths' : List String) :
    LintedUpTo mode (paths ++ paths') es e := by
  obtain ⟨front, path, rest, es', rfl, hfront, hfatal, rfl⟩ := h
  refine ⟨front, path, rest ++ paths', es', ?_, hfront, hfatal, rfl⟩
  rw [List.append_assoc, List.cons_append]

/-! ## What the calls are -/

/-- Each of the calls lints one of the paths. -/
theorem LintedAll.exists_of_mem {paths : List String} {es : List Event} {e : Event}
    (h : LintedAll mode paths es) (he : e ∈ es) :
    ∃ path ∈ paths, ∃ answer, e = .lint path mode answer ∧ Confined answer :=
  exists_of_mem_forall₂ h he

theorem LintedUpTo.exists_of_mem {paths : List String} {es : List Event} {e : Event}
    {failure : LintError} (h : LintedUpTo mode paths es failure) (he : e ∈ es) :
    ∃ path answer, e = .lint path mode answer := by
  obtain ⟨front, path, rest, es', -, hfront, -, rfl⟩ := h
  rcases List.mem_append.mp he with he | he
  · obtain ⟨path', -, answer, rfl, -⟩ := hfront.exists_of_mem he
    exact ⟨path', answer, rfl⟩
  · exact ⟨path, _, List.mem_singleton.mp he⟩

theorem Committed.exists_of_mem {files : StagedFiles} {es : List Event} {e : Event} {s : Snapshots}
    (h : Committed mode files es s) (he : e ∈ es) : ∃ path answer, e = .lint path mode answer := by
  obtain ⟨m, a, r, rfl, hm, ha, hr, -⟩ := h
  obtain ⟨path, -, answer, rfl, -⟩ := ((hm.append ha).append hr).exists_of_mem he
  exact ⟨path, answer, rfl⟩

theorem Baseline.exists_of_mem {files : StagedFiles} {es : List Event} {e : Event} {s s' : Snapshots}
    (h : Baseline mode files es s s') (he : e ∈ es) : ∃ path answer, e = .lint path mode answer := by
  obtain ⟨m, r, rfl, hm, hr, -⟩ := h
  obtain ⟨path, -, answer, rfl, -⟩ := (hm.append hr).exists_of_mem he
  exact ⟨path, answer, rfl⟩

/-! ## One list -/

/-- What linting a list leaves, in each of its two courses. -/
inductive Passed (mode : Option String) (phase : Phase) (pairs : List (String × String))
    (results : Results) (failures : List LintFailure) : List Event → Pass → Prop where
  | all {es : List Event} (h : LintedAll mode (pairs.map (·.1)) es) :
      Passed mode phase pairs results failures es
        ⟨es.foldl gather results, failures ++ crashes phase (pairs.map (·.2)) es, none⟩
  | aborted {es : List Event} {e : LintError} {results' : Results} {failures' : List LintFailure}
      (h : LintedUpTo mode (pairs.map (·.1)) es e) :
      Passed mode phase pairs results failures es ⟨results', failures', some (.linter e)⟩

/-- A path that was linted, in front of what follows. -/
theorem Passed.cons {phase : Phase} {path name : String} {rest : List (String × String)}
    {results results' : Results} {failures failures' : List LintFailure} {es : List Event}
    {pass : Pass} {answer : Except LintError (Option LintResult)} (hanswer : Confined answer)
    (hresults : gather results (.lint path mode answer) = results')
    (hfailures : failures ++ (crash? phase name (.lint path mode answer)).toList = failures')
    (h : Passed mode phase rest results' failures' es pass) :
    Passed mode phase ((path, name) :: rest) results failures
      (.lint path mode answer :: es) pass := by
  have hcall : LintedAll mode [path] [.lint path mode answer] :=
    .cons ⟨answer, rfl, hanswer⟩ .nil
  cases h with
  | all h =>
    have hcrashes : failures' ++ crashes phase (rest.map (·.2)) es = failures
        ++ crashes phase (((path, name) :: rest).map (·.2)) (.lint path mode answer :: es) := by
      rw [← hfailures, List.append_assoc]
      cases hc : crash? phase name (.lint path mode answer) <;>
        simp [crashes, hc]
    rw [← hresults, hcrashes]
    exact .all (hcall.append h)
  | aborted h => exact .aborted (LintedUpTo.after hcall h)

theorem does_lintAll (phase : Phase) (pairs : List (String × String)) (results : Results)
    (failures : List LintFailure) :
    Does vcs linter (lintAll linter mode phase pairs results failures) fun es pass =>
      Passed mode phase pairs results failures (calls es) pass := by
  induction pairs generalizing results failures with
  | nil =>
    refine does_pure ?_
    have h : Passed mode phase [] results failures [] ⟨results, failures ++ [], none⟩ := .all .nil
    rwa [List.append_nil] at h
  | cons pair rest ih =>
    obtain ⟨path, name⟩ := pair
    refine Does.bind (Linter.does_run path mode) ?_
    rintro _ answer rfl
    match answer with
    | .ok (some result) =>
      refine (ih (results.insert path result) failures).mono fun es pass h => ?_
      exact h.cons (by rintro e ⟨⟩) rfl (List.append_nil _)
    | .ok none =>
      refine (ih results failures).mono fun es pass h => ?_
      exact h.cons (by rintro e ⟨⟩) rfl (List.append_nil _)
    | .error e =>
      -- a crash costs the path its result, any other failure ends the linting
      by_cases he : e.isPerFile = true
      · simp only [he, if_true]
        refine (ih results (failures ++ [⟨name, phase, e⟩])).mono fun es pass h => ?_
        exact h.cons (by rintro _ ⟨⟩; exact he) rfl rfl
      · simp only [he, Bool.false_eq_true, if_false]
        exact does_pure (.aborted ⟨[], path, _, [], rfl, .nil, by simpa using he, rfl⟩)

/-! ## The two sides -/

theorem same_map_fst (paths : List String) : (same paths).map (·.1) = paths := by
  rw [same, List.map_map]
  exact List.map_id paths

theorem same_map_snd (paths : List String) : (same paths).map (·.2) = paths := by
  rw [same, List.map_map]
  exact List.map_id paths

/-- What linting a side leaves: results if it was linted through, else the failure that ended it. -/
def SideLinted (through : List Event → Snapshots → Prop) (mode : Option String)
    (paths : List String) (es : List Event) : Snapshots × Option RunError → Prop
  | (s, none) => through es s
  | (_, some failure) => ∃ e, failure = .linter e ∧ LintedUpTo mode paths es e

/-- **The committed side is linted in its three lists**, in order and under the new names. -/
theorem does_lintCurrent (files : StagedFiles) :
    Does vcs linter (lintCurrent linter mode files {}) fun es r =>
      SideLinted (Committed mode files) mode files.currentPaths (calls es) r := by
  refine Does.bind (does_lintAll _ _ _ _) fun es m hm => ?_
  generalize hcm : calls es = cm at hm
  cases hm with
  | aborted hm =>
    -- the paths of the other two lists are never reached
    rw [same_map_fst] at hm
    refine does_pure ⟨_, rfl, ?_⟩
    rw [List.append_nil, hcm, StagedFiles.currentPaths, List.append_assoc]
    exact hm.before _
  | all hm =>
    rw [same_map_fst] at hm
    refine Does.bind (does_lintAll _ _ _ _) fun es' a ha => ?_
    generalize hca : calls es' = ca at ha
    cases ha with
    | aborted ha =>
      rw [same_map_fst] at ha
      refine does_pure ⟨_, rfl, ?_⟩
      rw [List.append_nil, calls_append, hcm, hca, StagedFiles.currentPaths]
      exact (LintedUpTo.after hm ha).before _
    | all ha =>
      rw [same_map_fst] at ha
      refine Does.bind (does_lintAll _ _ _ _) fun es'' r hr => does_pure ?_
      rw [List.append_nil, calls_append, calls_append, hcm, hca]
      generalize calls es'' = cr at hr
      cases hr with
      | aborted hr =>
        rw [same_map_fst] at hr
        refine ⟨_, rfl, ?_⟩
        rw [← List.append_assoc, StagedFiles.currentPaths]
        exact LintedUpTo.after (hm.append ha) hr
      | all hr =>
        rw [same_map_fst] at hr
        refine ⟨cm, ca, cr, (List.append_assoc _ _ _).symm, hm, ha, hr, ?_⟩
        simp only [same_map_snd, gathered, List.nil_append]

/-- **The baseline is linted in its two lists**, renamed files by their old names. -/
theorem does_lintBaseline (files : StagedFiles) (s : Snapshots) (hs : s.baseline = {})
    (hs' : s.baselineRenamed = {}) :
    Does vcs linter (lintBaseline linter mode files s) fun es r =>
      SideLinted (Baseline mode files · s) mode (baselinePaths files) (calls es) r := by
  have hfst : (files.renames.map fun r => (r.oldPath, r.newPath)).map (·.1) = files.renamedFrom := by
    rw [List.map_map]
    rfl
  have hsnd : (files.renames.map fun r => (r.oldPath, r.newPath)).map (·.2) = files.renamedTo := by
    rw [List.map_map]
    rfl
  refine Does.bind (does_lintAll _ _ _ _) fun es m hm => ?_
  generalize hcm : calls es = cm at hm
  cases hm with
  | aborted hm =>
    rw [same_map_fst] at hm
    refine does_pure ⟨_, rfl, ?_⟩
    rw [List.append_nil, hcm]
    exact hm.before _
  | all hm =>
    rw [same_map_fst] at hm
    refine Does.bind (does_lintAll _ _ _ _) fun es' r hr => does_pure ?_
    rw [List.append_nil, calls_append, hcm]
    generalize calls es' = cr at hr
    cases hr with
    | aborted hr =>
      rw [hfst] at hr
      exact ⟨_, rfl, LintedUpTo.after hm hr⟩
    | all hr =>
      rw [hfst] at hr
      refine ⟨cm, cr, rfl, hm, hr, ?_⟩
      simp only [hs, hs', same_map_snd, hsnd, gathered]

end LintGate.Snapshot
