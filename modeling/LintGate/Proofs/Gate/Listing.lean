/-
Which files a run gives a verdict on, and by what.

The list of verdicts is put together from three mappings, and the verdict on a compared
file is looked up by its path in one list of differences. Neither the order of the files
nor their independence is visible there. Both come from the calls of the committed side: a
mapping has the paths that got a result, each at the place of its first one
(`paths_ofList`), and since no path has two roles, the three mappings one behind the other
are what all these calls give together. Taking the files out that failed keeps the order.

The verdict itself is stated by `Judged`, which names the outputs of the one file and no
other.
-/
import LintGate.Proofs.Snapshot.Sides
import LintGate.Proofs.Snapshot.Confinement
import Mathlib.Data.List.Induction
import Mathlib.Data.List.Nodup

set_option autoImplicit false

namespace LintGate

/-! ## Results that are put in one after the other -/

namespace Results

theorem ofList_concat (pairs : List (String × LintResult)) (e : String × LintResult) :
    ofList (pairs ++ [e]) = (ofList pairs).insert e.1 e.2 := by
  rw [ofList, List.foldl_append]
  rfl

/-- Each path is at the place where it was first put in. -/
theorem paths_ofList (pairs : List (String × LintResult)) :
    (ofList pairs).paths = (pairs.map (·.1)).eraseDups := by
  induction pairs using List.reverseRecOn with
  | nil => rfl
  | append_singleton pairs e ih =>
    rw [ofList_concat, List.map_append, List.eraseDups_append, ← ih, List.map_singleton,
      List.removeAll]
    have hmem : (pairs.map (·.1)).elem e.1 = true ↔ e.1 ∈ (ofList pairs).paths := by
      rw [ih, List.mem_eraseDups, List.elem_iff]
    by_cases hpresent : e.1 ∈ (ofList pairs).paths
    · rw [List.filter_cons_of_neg (by simpa using hmem.mpr hpresent), insert,
        if_pos (isSome_get?_iff.mpr hpresent)]
      exact (map_fst_replace _ _ _).trans (List.append_nil _).symm
    · rw [List.filter_cons_of_pos (by simpa using mt hmem.mp hpresent), insert,
        if_neg (mt isSome_get?_iff.mp hpresent)]
      exact List.map_append

/-- And they come in the order in which they were put in. -/
theorem paths_ofList_sublist (pairs : List (String × LintResult)) :
    (ofList pairs).paths.Sublist (pairs.map (·.1)) := by
  induction pairs using List.reverseRecOn with
  | nil => exact List.Sublist.slnil
  | append_singleton pairs e ih =>
    rw [ofList_concat, List.map_append]
    rcases (ofList pairs).paths_insert e.1 e.2 with hsame | ⟨-, hnew⟩
    · rw [hsame]
      exact ih.trans (List.sublist_append_left _ _)
    · rw [hnew]
      exact ih.append_right [e.1]

theorem nodup_paths_ofList (pairs : List (String × LintResult)) : (ofList pairs).paths.Nodup := by
  induction pairs using List.reverseRecOn with
  | nil => exact List.nodup_nil
  | append_singleton pairs e ih =>
    rw [ofList_concat]
    rcases (ofList pairs).paths_insert e.1 e.2 with hsame | ⟨hfresh, hnew⟩
    · rw [hsame]
      exact ih
    · rw [hnew, ← List.concat_eq_append]
      exact List.Nodup.concat hfresh ih

/-- What is put in later under a path goes before what was put in earlier. -/
theorem get?_ofList_append (pairs more : List (String × LintResult)) (path : String) :
    (ofList (pairs ++ more)).get? path
      = ((ofList more).get? path).or ((ofList pairs).get? path) := by
  induction more using List.reverseRecOn with
  | nil =>
    rw [List.append_nil]
    exact Option.none_or.symm
  | append_singleton more e ih =>
    rw [← List.append_assoc, ofList_concat, ofList_concat, get?_insert, get?_insert, ih]
    split
    · exact Option.some_or.symm
    · rfl

end Results

namespace Snapshot

/-- The path and the result of a call that gave one. -/
def result? : Event → Option (String × LintResult)
  | .lint path _ (.ok (some result)) => some (path, result)
  | _ => none

/-- The paths that calls gave a result for, in the order of the calls. -/
def answered (es : List Event) : List String := (es.filterMap result?).map (·.1)

/-- What is collected from calls is what they gave, put in one after the other. -/
theorem gathered_eq (es : List Event) : gathered es = .ofList (es.filterMap result?) := by
  rw [gathered, Results.ofList, List.foldl_filterMap]
  congr 1
  funext m e
  unfold gather
  split
  · rfl
  next hnone =>
    -- any other call gives nothing
    have hresult : result? e = none := by
      unfold result?
      split
      · exact absurd rfl (hnone _ _ _)
      · rfl
    rw [hresult]

theorem paths_gathered (es : List Event) : (gathered es).paths = (answered es).eraseDups := by
  rw [gathered_eq, Results.paths_ofList]
  rfl

theorem get?_gathered_append (es es' : List Event) (path : String) :
    (gathered (es ++ es')).get? path
      = ((gathered es').get? path).or ((gathered es).get? path) := by
  rw [gathered_eq, gathered_eq, gathered_eq, List.filterMap_append, Results.get?_ofList_append]

/-- Where two lists of calls give results for different paths, the paths of both are those of the one
and then those of the other. -/
theorem paths_gathered_append {es es' : List Event}
    (h : ∀ path ∈ (gathered es').paths, path ∉ (gathered es).paths) :
    (gathered (es ++ es')).paths = (gathered es).paths ++ (gathered es').paths := by
  have hapart : (answered es').removeAll (answered es) = answered es' := by
    refine List.filter_eq_self.mpr fun path hpath => ?_
    have hnot : path ∉ answered es := by
      rw [← List.mem_eraseDups, ← paths_gathered]
      refine h path ?_
      rw [paths_gathered, List.mem_eraseDups]
      exact hpath
    simpa using hnot
  have happend : answered (es ++ es') = answered es ++ answered es' := by
    rw [answered, List.filterMap_append, List.map_append]
    rfl
  rw [paths_gathered, happend, List.eraseDups_append, hapart, ← paths_gathered, ← paths_gathered]

/-- The paths of the results are among those that were linted, in the same order. -/
theorem LintedAll.paths_sublist {mode : Option String} {paths : List String} {es : List Event}
    (h : LintedAll mode paths es) : (gathered es).paths.Sublist paths := by
  rw [gathered_eq]
  refine (Results.paths_ofList_sublist _).trans ?_
  induction h with
  | nil => exact List.Sublist.slnil
  | @cons path e paths es hcall _ ih =>
    obtain ⟨answer, rfl, -⟩ := hcall
    match answer with
    | .ok (some result) => exact ih.cons_cons path
    | .ok none => exact ih.cons path
    | .error _ => exact ih.cons path

/-! ## The calls of the committed side -/

/-- Calls that are the committed side of a run: nothing is linted in front of them, and if anything
follows, the staged changes are set aside first. -/
def CommittedPart (all es : List Event) : Prop :=
  ∃ front back, all = front ++ es ++ back ∧ (∀ e ∈ front, e.isLint = false) ∧
    (back = [] ∨ ∃ answer rest, back = .saveFrame stagedLabel false answer :: rest)

variable {mode : Option String} {files : StagedFiles}

/-- A course that ends with results has a committed side that was linted through, and its results are
those of the answer. -/
theorem Course.committedPart {all : List Event} {s : Snapshots} (h : Course mode files all (.ok s)) :
    ∃ es s₀, CommittedPart all es ∧ Committed mode files es s₀ ∧ s.current = s₀.current ∧
      s.added = s₀.added ∧ s.currentRenamed = s₀.currentRenamed := by
  generalize hr : Except.ok s = r at h
  cases h with
  | headUnread => cases hr
  | unbornAborted => cases hr
  | mergeUnread => cases hr
  | @unborn es s' h =>
    obtain rfl := Except.ok.inj hr
    refine ⟨es, s, ⟨[.hasCommits (.ok false)], [], (List.append_nil _).symm, ?_, .inl rfl⟩, h, rfl,
      rfl, rfl⟩
    intro e he
    rw [List.mem_singleton.mp he]
    rfl
  | @isolated merge inside back unstaged staged linted d h h' =>
    rw [settled] at hr
    split at hr
    swap
    · cases hr
    subst hr
    cases h with
    | @both frame frame' es es' s₀ _ hcommitted hbaseline =>
      obtain ⟨m, r, -, -, -, rfl⟩ := hbaseline
      refine ⟨es, s₀, ⟨[.hasCommits (.ok true), .readMergeState (.ok merge),
        .saveFrame unstagedLabel true (.ok unstaged)],
        .saveFrame stagedLabel false (.ok staged) :: (es' ++ back), ?_, ?_, .inr ⟨_, _, rfl⟩⟩,
        hcommitted, rfl, rfl, rfl⟩
      · simp only [List.cons_append, List.nil_append, List.append_assoc]
      · simp [Event.isLint]

/-- Since no path has two roles, the results of the three lists are those of all the calls: the paths
one list behind the other, and under each path what its own list has. -/
theorem Committed.gathered_eq {es : List Event} {s : Snapshots} (h : Committed mode files es s)
    (hroles : files.Roles) :
    (gathered es).paths = s.current.paths ++ s.added.paths ++ s.currentRenamed.paths ∧
      ∀ path, (gathered es).get? path
        = (s.currentRenamed.get? path).or ((s.added.get? path).or (s.current.get? path)) := by
  have hover := h.over
  obtain ⟨m, a, r, rfl, -, -, -, rfl⟩ := h
  have hadded : ∀ path ∈ (gathered a).paths, path ∉ (gathered m).paths := fun path ha hm =>
    (hroles.added path (hover.added.2 path ha)).1 (hover.current.2 path hm)
  have hfront := paths_gathered_append hadded
  have hrenamed : ∀ path ∈ (gathered r).paths, path ∉ (gathered (m ++ a)).paths := by
    intro path hr hma
    have hr : path ∈ files.renamedTo := hover.currentRenamed.2 path hr
    rw [hfront] at hma
    rcases List.mem_append.mp hma with hm | ha
    · exact hroles.renamed path hr (hover.current.2 path hm)
    · exact (hroles.added path (hover.added.2 path ha)).2 hr
  refine ⟨?_, fun path => ?_⟩
  · rw [paths_gathered_append hrenamed, hfront]
  · rw [get?_gathered_append, get?_gathered_append]

/-- What a run takes of the committed side is what the calls of that side gave. -/
theorem take_gathers {σ : Type} {vcs : VersionControl σ} {linter : Linter σ} {verbose : Bool}
    {s s' : Session σ} {snap : Snapshots} (hroles : files.Roles)
    (h : take vcs linter mode files verbose s = (.ok snap, s')) :
    ∃ cs es, s'.events = s.events ++ cs ∧ CommittedPart (calls cs) es ∧
      ((files.currentPaths.any fun path => linter.handles path mode) = true →
        LintedAll mode files.currentPaths es) ∧
      ((files.currentPaths.any fun path => linter.handles path mode) = false → calls cs = []) ∧
      (gathered es).paths.Sublist files.currentPaths ∧
      (gathered es).paths = snap.current.paths ++ snap.added.paths ++ snap.currentRenamed.paths ∧
      ∀ path, (gathered es).get? path
        = (snap.currentRenamed.get? path).or ((snap.added.get? path).or (snap.current.get? path)) := by
  obtain ⟨cs, hcs, -, hruns⟩ := does_take vcs linter mode files verbose s
  rw [h] at hcs hruns
  rw [Runs] at hruns
  split at hruns
  next hhandled =>
    obtain ⟨es, s₀, hpart, hcommitted, hcurrent, hadded, hrenamed⟩ := hruns.committedPart
    obtain ⟨hpaths, hget⟩ := hcommitted.gathered_eq hroles
    rw [hcurrent, hadded, hrenamed]
    exact ⟨cs, es, hcs, hpart, fun _ => hcommitted.linted,
      fun hnone => absurd (hhandled.symm.trans hnone) Bool.true_eq_false.mp,
      hcommitted.linted.paths_sublist, hpaths, hget⟩
  next hnone =>
    -- no file has a linter: no call is made, and there are no results
    obtain ⟨hcalls, hsnap⟩ := hruns
    obtain rfl := Except.ok.inj hsnap
    refine ⟨cs, [], hcs, ⟨[], [], ?_, ?_, .inl rfl⟩, fun hhandled => absurd hhandled hnone,
      fun _ => hcalls, List.nil_sublist _, rfl, fun _ => rfl⟩
    · rw [hcalls]
      rfl
    · intro e he
      cases he

end Snapshot

/-! ## Verdicts by a file's own outputs -/

/-- The verdict that the outputs of a compared file call for. -/
structure ComparedFile.Judged (matcher : Matcher) (f : ComparedFile) (v : Verdict) : Prop where
  clean : v = .clean ↔ f.after = f.before
  regressed : v = .regressed ↔ f.after ≠ f.before ∧ detectsDefect f.delta matcher = true
  improved : v = .improved ↔ f.after ≠ f.before ∧ detectsDefect f.delta matcher = false

theorem ComparedFile.judged_iff {matcher : Matcher} {f : ComparedFile} {v : Verdict} :
    f.Judged matcher v ↔ v = f.verdict matcher := by
  have hverdict : f.verdict matcher = if f.before = f.after then .clean
      else if detectsDefect f.delta matcher then .regressed else .improved := rfl
  rw [hverdict]
  constructor
  · rintro ⟨hclean, hregressed, himproved⟩
    split
    next hsame => exact hclean.mpr hsame.symm
    next hne =>
      split
      next hdetected => exact hregressed.mpr ⟨Ne.symm hne, hdetected⟩
      next hnone => exact himproved.mpr ⟨Ne.symm hne, Bool.eq_false_iff.mpr hnone⟩
  · rintro rfl
    by_cases hsame : f.after = f.before
    · constructor <;> simp [hsame]
    · have hne : f.before ≠ f.after := Ne.symm hsame
      cases hdetected : detectsDefect f.delta matcher <;> constructor <;>
        simp [hsame, hne, hdetected]

namespace Gate

/-- The verdict that a file's own outputs call for: what was said of it on the committed side, and, for
a compared file, what the results hold of it before the commit. -/
inductive Judged (matcher : Matcher) (files : StagedFiles) (s : Snapshots) (result : LintResult)
    (path : String) (v : Verdict) : Prop where
  /-- A modified or copied file is compared under its own name. -/
  | sameName (hrole : path ∈ files.modifiedOrCopied)
      (h : ComparedFile.Judged matcher ⟨path, path, s.baseline.textOf path, result.text⟩ v)
  /-- An added one is judged by its findings. -/
  | added (hrole : path ∈ files.added)
      (hregressed : v = .regressed ↔ result.warned = true)
      (hclean : v = .clean ↔ result.warned = false)
  /-- A renamed one is compared under its old name. -/
  | renamed (hrole : path ∈ files.renamedTo)
      (h : ComparedFile.Judged matcher ⟨path, Comparison.oldName files.renames path,
        s.baselineRenamed.textOf (Comparison.oldName files.renames path), result.text⟩ v)

variable {matcher : Matcher} {files : StagedFiles} {s : Snapshots} {path : String}
  {result : LintResult}

theorem judge_paths : (judge matcher files s).verdicts.map (·.1)
    = s.current.paths ++ s.added.paths ++ s.currentRenamed.paths := by
  simp only [judge, List.map_append, List.map_map]
  congr 1
  congr 1
  · exact List.map_id _
  · exact List.map_id _

/-- The verdict on a new file is that of its findings. -/
theorem judge_added_iff (hover : s.Over files) (hroles : files.Roles)
    (hresult : s.added.get? path = some result) (v : Verdict) :
    (path, v) ∈ (judge matcher files s).verdicts ↔ v = addedVerdict result := by
  have hmem : path ∈ s.added.paths := Results.isSome_get?_iff.mp (by rw [hresult]; rfl)
  have hfresh := hroles.added path (hover.added.2 path hmem)
  have hcurrent : path ∉ s.current.paths := fun h => hfresh.1 (hover.current.2 path h)
  have hrenamed : path ∉ s.currentRenamed.paths := fun h => hfresh.2 (hover.currentRenamed.2 path h)
  simp only [judge, List.mem_append, List.mem_map, Prod.mk.injEq]
  constructor
  · rintro ((⟨_, h, rfl, -⟩ | ⟨⟨_, found⟩, he, rfl, rfl⟩) | ⟨_, h, rfl, -⟩)
    · exact absurd h hcurrent
    · rw [Results.get?_of_mem hover.added.1 he] at hresult
      rw [Option.some.inj hresult]
    · exact absurd h hrenamed
  · rintro rfl
    obtain ⟨before, after, hsplit, -, -⟩ := Results.entries_split hover.added.1 hresult
    refine .inl (.inr ⟨(path, result), ?_, rfl, rfl⟩)
    rw [hsplit]
    exact List.mem_append_right _ List.mem_cons_self

/-- **The verdict on a file is the one that its own outputs call for.** The result of a file is that of
its role, wherever it stands. -/
theorem mem_verdicts_iff (hover : s.Over files) (hroles : files.Roles)
    (hresult : (s.currentRenamed.get? path).or ((s.added.get? path).or (s.current.get? path))
      = some result) (v : Verdict) :
    (path, v) ∈ (judge matcher files s).verdicts ↔ Judged matcher files s result path v := by
  have hmem : ∀ {m : Results}, m.get? path = some result → path ∈ m.paths := fun h =>
    Results.isSome_get?_iff.mp (by rw [h]; rfl)
  rcases Option.or_eq_some_iff.mp hresult with hrenamed | ⟨-, hrest⟩
  · have hrole : path ∈ files.renamedTo := hover.currentRenamed.2 path (hmem hrenamed)
    rw [judge_verdicts_iff (f := ⟨path, _, _, _⟩) hover hroles (.renamed hrenamed),
      ← ComparedFile.judged_iff]
    refine ⟨.renamed hrole, fun h => ?_⟩
    cases h with
    | sameName hmodified => exact absurd hmodified (hroles.renamed path hrole)
    | added hadded => exact absurd hrole (hroles.added path hadded).2
    | renamed _ h => exact h
  rcases Option.or_eq_some_iff.mp hrest with hadded | ⟨-, hcurrent⟩
  · have hrole : path ∈ files.added := hover.added.2 path (hmem hadded)
    rw [judge_added_iff hover hroles hadded]
    constructor
    · rintro rfl
      refine .added hrole ?_ ?_ <;> cases hwarned : result.warned <;> simp [addedVerdict, hwarned]
    · intro h
      cases h with
      | sameName hmodified => exact absurd hmodified (hroles.added path hrole).1
      | added _ hregressed hclean =>
        cases hwarned : result.warned with
        | true => exact (hregressed.mpr hwarned).trans (if_pos hwarned).symm
        | false => exact (hclean.mpr hwarned).trans (by rw [addedVerdict, hwarned]; rfl)
      | renamed hrenamed => exact absurd hrenamed (hroles.added path hrole).2
  · have hrole : path ∈ files.modifiedOrCopied := hover.current.2 path (hmem hcurrent)
    rw [judge_verdicts_iff (f := ⟨path, _, _, _⟩) hover hroles (.sameName hcurrent),
      ← ComparedFile.judged_iff]
    refine ⟨.sameName hrole, fun h => ?_⟩
    cases h with
    | sameName _ h => exact h
    | added hadded => exact absurd hrole (hroles.added path hadded).1
    | renamed hrenamed => exact absurd hrole (hroles.renamed path hrenamed)

/-! ## Runs -/

section Runs

variable {σ : Type} {vcs : VersionControl σ} {linter : Linter σ} {options : Options}
  {session session' : Session σ} {log : Spot σ} {time : String} {o : Outcome}

/-- The files that were left out of a run's verdicts are those that failed. -/
theorem conclude_failures {j : Judgement} {failures : List LintFailure}
    (h : conclude log time j failures session = (.ok o, session')) : o.failures = failures := by
  unfold conclude at h
  simp only [bind, StateT.bind, Act.quietly] at h
  generalize j.report.finish time log session.world = finished at h
  obtain ⟨answer, w⟩ := finished
  cases answer with
  | error e => cases h
  | ok written =>
    cases h
    rfl

/-- **The list of verdicts is complete, each file stands in it once, and each is judged by itself.** In
every run with an outcome, the files of the commit are linted in the order of their roles, and those
for which the committed side gave a result and which did not fail are listed in that order. The verdict
on a listed file is the one, and the only one, that its own outputs call for: the result of its last
call on the committed side, and what is left under its name before the commit when the files that
failed are taken out. -/
theorem run_lists_verdicts
    (hrun : run vcs linter matcher options log time session = (.ok o, session')) :
    ∃ (files : StagedFiles) (snap : Snapshots) (session₁ session₂ : Session σ) (cs es : List Event),
      StagedFiles.classify vcs session = (.ok files, session₁) ∧
      Snapshot.take vcs linter options.mode files options.verbose session₁ = (.ok snap, session₂) ∧
      session₂.events = session₁.events ++ cs ∧ Snapshot.CommittedPart (calls cs) es ∧
      ((files.currentPaths.any fun path => linter.handles path options.mode) = true →
        Snapshot.LintedAll options.mode files.currentPaths es) ∧
      ((files.currentPaths.any fun path => linter.handles path options.mode) = false →
        calls cs = []) ∧
      o.failures = snap.failures ∧
      o.verdicts.map (·.1) = (Snapshot.answered es).eraseDups.filter
        (fun path => !(o.failures.map (·.path)).contains path) ∧
      (o.verdicts.map (·.1)).Nodup ∧
      (o.verdicts.map (·.1)).Sublist files.currentPaths ∧
      ∀ path ∈ o.verdicts.map (·.1), ∃ result,
        (Snapshot.gathered es).get? path = some result ∧
        ∀ v, (path, v) ∈ o.verdicts ↔
          Judged matcher files (snap.excludeFailures files) result path v := by
  obtain ⟨files, session₁, snap, session₂, hclassify, htake, hconclude⟩ := exists_of_run_ok hrun
  obtain ⟨hverdicts, -, -⟩ := conclude_finishes hconclude
  have hroles : files.Roles := by
    obtain ⟨-, -, -, hroles⟩ := StagedFiles.does_classify vcs linter session
    exact hroles files (by rw [hclassify])
  have hover : (snap.excludeFailures files).Over files := (Snapshot.take_over htake).excludeFailures
  have hexcluded : snap.excludeFailures files = snap.without files snap.failed :=
    Snapshots.excludeFailures_eq (Snapshot.take_distinct htake) files
  have hfailures : o.failures = snap.failures := by
    rw [conclude_failures hconclude, hexcluded]
    rfl
  obtain ⟨cs, es, hcs, hpart, hlinted, hidle, hsublist, hpaths, hget⟩ :=
    Snapshot.take_gathers hroles htake
  have hlisted : o.verdicts.map (·.1) = (Snapshot.gathered es).paths.filter
      (fun path => !(o.failures.map (·.path)).contains path) := by
    rw [hverdicts, judge_paths, hexcluded, hpaths, List.filter_append, List.filter_append, hfailures]
    simp only [Snapshots.without, Results.paths_keep]
    rfl
  have hnodup : (Snapshot.gathered es).paths.Nodup := by
    rw [Snapshot.gathered_eq]
    exact Results.nodup_paths_ofList _
  refine ⟨files, snap, session₁, session₂, cs, es, hclassify, htake, hcs, hpart, hlinted, hidle,
    hfailures, ?_, ?_, ?_, ?_⟩
  · rw [hlisted, Snapshot.paths_gathered]
  · rw [hlisted]
    exact hnodup.filter _
  · rw [hlisted]
    exact List.filter_sublist.trans hsublist
  · intro path hpath
    rw [hlisted, List.mem_filter] at hpath
    obtain ⟨result, hresult⟩ := Option.isSome_iff_exists.mp (Results.isSome_get?_iff.mpr hpath.1)
    refine ⟨result, hresult, fun v => ?_⟩
    rw [hverdicts]
    refine mem_verdicts_iff hover hroles ?_ v
    -- a file that did not fail keeps its result
    have hkept : (!snap.failed.contains path) = true := by
      rw [hfailures] at hpath
      exact hpath.2
    rw [hexcluded]
    simp only [Snapshots.without, Results.get?_keep, if_pos hkept]
    rw [← hget]
    exact hresult

end Runs

/-! ## A run over files of every role -/

/-- Two modified files, of which a linter crashes on the second, an added file and a renamed one. -/
def rolesPlan : Rehearsal.Plan :=
  { staged := [(.modified, "b.js"), (.modified, "a.js"), (.added, "n.js")]
    renames := [⟨"o.js", "r.js"⟩]
    replies :=
      [(.staged, [("b.js", .answer ⟨"b|E|new\n", true⟩), ("a.js", .crash "boom"),
        ("n.js", .answer ⟨"n|E|x\n", true⟩), ("r.js", .answer ⟨"r|E|y\n", true⟩)]),
       (.baseline, [("b.js", .answer ⟨"b|E|old\n", true⟩), ("o.js", .answer ⟨"r|E|y\n", true⟩)])] }

def rolesRun : Except RunError Outcome × Session Rehearsal.Stage :=
  run Rehearsal.versionControl (Rehearsal.linter rolesPlan) Matcher.records {} editLog "now"
    { world := { plan := rolesPlan } }

/-- The file that failed is not listed, and the verdict on the renamed one is that of its own outputs. -/
theorem run_lists_verdicts_of_roles : ∃ o session', rolesRun = (.ok o, session') ∧
    o.verdicts.map (·.1) = ["b.js", "n.js", "r.js"] ∧
    ∃ (files : StagedFiles) (snap : Snapshots) (es : List Event),
      o.verdicts.map (·.1) = (Snapshot.answered es).eraseDups.filter
        (fun path => !(o.failures.map (·.path)).contains path) ∧
      (o.verdicts.map (·.1)).Nodup ∧
      ∃ result, (Snapshot.gathered es).get? "r.js" = some result ∧
        ∀ v, ("r.js", v) ∈ o.verdicts ↔
          Judged Matcher.records files (snap.excludeFailures files) result "r.js" v := by
  have hanswer : rolesRun.1.toOption.map (·.verdicts.map (·.1)) = some ["b.js", "n.js", "r.js"] := by
    decide +kernel
  cases hrun : rolesRun with
  | mk answer session' =>
  rw [hrun] at hanswer
  cases answer with
  | error e => cases hanswer
  | ok o =>
    have hlisted : o.verdicts.map (·.1) = ["b.js", "n.js", "r.js"] := Option.some.inj hanswer
    obtain ⟨files, snap, -, -, -, es, -, -, -, -, -, -, -, hpaths, hnodup, -, hjudged⟩ :=
      run_lists_verdicts hrun
    obtain ⟨result, hresult, hverdict⟩ := hjudged "r.js" (by rw [hlisted]; decide)
    exact ⟨o, session', rfl, hlisted, files, snap, es, hpaths, hnodup, result, hresult, hverdict⟩

end Gate

end LintGate
