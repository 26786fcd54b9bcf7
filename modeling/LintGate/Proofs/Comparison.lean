/-
What the comparison of two sides reports.

The walk over the committed files has two ways of passing a file over: its result is the same
as the one before, where same means the text and not the flag, and its difference shows
nothing. A file without a result before is only stopped by the second. That the two come to
one thing, that a file is passed over exactly if its text is the one before, rests on the line
diff: it shows nothing of equal texts, and something of all others (`unifiedDelta_eq_empty_iff`).

The walk has two results, the differences it answers and the blocks it reports. `compareFiles_eq`
says that they are what comes of gathering the differences first and reporting them afterwards,
which is how a run does it; so the report has one block for each difference, in the same order.
New files are reported by a walk of the same kind, which sets the flag as well.
-/
import LintGate.Proofs.Diff.Patch
import LintGate.Proofs.Log
import LintGate.Proofs.Results

set_option autoImplicit false

namespace LintGate

/-! ## Differences that show nothing -/

/-- The delta of two texts shows nothing exactly if they are equal. -/
theorem Diff.unifiedDelta_eq_empty_iff {oldText newText oldName newName : String} :
    unifiedDelta oldText newText oldName newName = "" ↔ oldText = newText := by
  constructor
  · intro hempty
    by_contra hne
    -- a delta that has hunks has a title, which ends at a feed
    have hlist := toList_unifiedDelta oldName newName (hunksBetween_ne_nil hne)
    rw [hempty] at hlist
    exact absurd hlist.symm (List.append_ne_nil_of_right_ne_nil _ (List.cons_ne_nil _ _))
  · rintro rfl
    unfold unifiedDelta
    simp only [hunksBetween_self]

namespace Comparison

variable {baseline current added : Results} {renames : List Rename} {r : Report}

/-! ## One file -/

/-- The difference of a file by what stood under its old name. -/
theorem delta?_eq (baseline : Results) (renames : List Rename) (path : String) (result : LintResult) :
    delta? baseline renames path result =
      if baseline.textOf (oldName renames path) = result.text then none
      else some ⟨path, Diff.unifiedDelta (baseline.textOf (oldName renames path)) result.text
        (oldName renames path) path⟩ := rfl

theorem emit_eq (path delta : String) (r : Report) :
    emit path delta r = if delta = "" then (none, r) else (some ⟨path, delta⟩, r.push delta) := by
  by_cases hempty : delta = ""
  · rw [if_pos hempty, hempty]
    rfl
  · have hshown : delta.isEmpty = false := Bool.eq_false_iff.mpr (mt String.isEmpty_iff.mp hempty)
    rw [if_neg hempty]
    simp only [emit, hshown]
    rfl

/-- **The two ways of being passed over are one**: a file is reported exactly if its text is not the
one before. -/
theorem compareFile_eq (baseline : Results) (renames : List Rename) (path : String)
    (result : LintResult) (r : Report) :
    compareFile baseline renames path result r =
      (delta? baseline renames path result,
        reportDeltas (delta? baseline renames path result).toList r) := by
  have hemit : ∀ before : String, baseline.textOf (oldName renames path) = before →
      emit path (Diff.unifiedDelta before result.text (oldName renames path) path) r =
        (delta? baseline renames path result,
          reportDeltas (delta? baseline renames path result).toList r) := by
    rintro before rfl
    rw [emit_eq, delta?_eq]
    simp only [Diff.unifiedDelta_eq_empty_iff]
    split
    · rfl
    · rfl
  unfold compareFile
  cases hprevious : baseline.get? (oldName renames path) with
  | none =>
    refine hemit "" ?_
    rw [Results.textOf, hprevious]
    rfl
  | some previous =>
    have htext : baseline.textOf (oldName renames path) = previous.text := by
      rw [Results.textOf, hprevious]
      rfl
    by_cases hsame : previous.text = result.text
    · -- the results are the same, whatever their flags
      rw [delta?_eq, htext, if_pos hsame]
      simp only [LintResult.same, hsame, beq_self_eq_true, if_true]
      rfl
    · simp only [LintResult.same, beq_false_of_ne hsame, Bool.false_eq_true, if_false]
      exact hemit previous.text htext

/-! ## All files -/

/-- **One walk is gathering and reporting**: what it answers are the differences, and what it leaves is
the report of them. -/
theorem compareFiles_eq (baseline : Results) (renames : List Rename)
    (entries : List (String × LintResult)) (r : Report) :
    compareFiles baseline renames entries r =
      (deltas baseline ⟨entries⟩ renames, reportDeltas (deltas baseline ⟨entries⟩ renames) r) := by
  induction entries generalizing r with
  | nil => rfl
  | cons e rest ih =>
    obtain ⟨path, result⟩ := e
    have hdeltas : deltas baseline ⟨(path, result) :: rest⟩ renames =
        (delta? baseline renames path result).toList ++ deltas baseline ⟨rest⟩ renames := by
      unfold deltas
      rw [List.filterMap_cons]
      dsimp only
      cases delta? baseline renames path result with
      | none => rfl
      | some d => rfl
    have hreport : ∀ ds ds' : List FileDelta,
        reportDeltas (ds ++ ds') r = reportDeltas ds' (reportDeltas ds r) := by
      intro ds ds'
      exact List.foldl_append
    rw [hdeltas, hreport]
    unfold compareFiles
    simp only [bind, StateT.bind, compareFile_eq, ih]
    rfl

theorem reportFiles_eq (entries : List (String × LintResult)) (r : Report) :
    reportFiles entries r =
      ((findings ⟨entries⟩).map (·.1), reportFindings (findings ⟨entries⟩) r) := by
  induction entries generalizing r with
  | nil => rfl
  | cons e rest ih =>
    obtain ⟨path, result⟩ := e
    unfold reportFiles
    cases hwarned : result.warned with
    | false =>
      have hfindings : findings ⟨(path, result) :: rest⟩ = findings ⟨rest⟩ :=
        List.filter_cons_of_neg (by simp [hwarned])
      rw [hfindings, ← ih]
      rfl
    | true =>
      have hfindings : findings ⟨(path, result) :: rest⟩ = (path, result) :: findings ⟨rest⟩ :=
        List.filter_cons_of_pos hwarned
      rw [hfindings]
      simp only [Bool.not_true, Bool.false_eq_true, if_false, bind, StateT.bind, ih]
      rfl

/-! ## The report -/

/-- Reported differences are blocks at the end of the body. -/
theorem body_reportDeltas (ds : List FileDelta) (r : Report) :
    (reportDeltas ds r).body = r.body ++ Report.bodyOf (ds.map (·.delta)) := by
  induction ds using List.reverseRecOn with
  | nil => exact (String.append_empty).symm
  | append_singleton ds d ih =>
    have hpush : reportDeltas (ds ++ [d]) r = (reportDeltas ds r).push d.delta := List.foldl_append
    rw [hpush, List.map_append, List.map_singleton, Report.bodyOf_concat, Report.push, ih]
    simp only [String.append_assoc]

/-- How a new file with findings is reported. -/
def findingBlock (e : String × LintResult) : String := e.1 ++ "\n" ++ e.2.text

theorem body_reportFindings (fs : List (String × LintResult)) (r : Report) :
    (reportFindings fs r).body = r.body ++ Report.bodyOf (fs.map findingBlock) := by
  induction fs using List.reverseRecOn with
  | nil => exact (String.append_empty).symm
  | append_singleton fs e ih =>
    have hpush : reportFindings (fs ++ [e]) r
        = ((reportFindings fs r).push (findingBlock e)).flag := List.foldl_append
    rw [hpush, List.map_append, List.map_singleton, Report.bodyOf_concat, Report.flag, Report.push, ih]
    simp only [String.append_assoc]

/-! ## The statement -/

/-- Whether the text of a file is another than the one before. -/
def differs (baseline : Results) (renames : List Rename) (e : String × LintResult) : Bool :=
  baseline.textOf (oldName renames e.1) != e.2.text

/-- The difference of the text of a file to the one before, under the two names. -/
def difference (baseline : Results) (renames : List Rename) (e : String × LintResult) : FileDelta :=
  ⟨e.1, Diff.unifiedDelta (baseline.textOf (oldName renames e.1)) e.2.text (oldName renames e.1) e.1⟩

theorem deltas_eq (baseline current : Results) (renames : List Rename) :
    deltas baseline current renames =
      (current.entries.filter (differs baseline renames)).map (difference baseline renames) := by
  obtain ⟨entries⟩ := current
  unfold deltas
  induction entries with
  | nil => rfl
  | cons e rest ih =>
    rw [List.filterMap_cons]
    dsimp only
    rw [delta?_eq]
    by_cases hsame : baseline.textOf (oldName renames e.1) = e.2.text
    · have hpassed : ¬differs baseline renames e = true := fun h => bne_iff_ne.mp h hsame
      rw [List.filter_cons_of_neg hpassed, if_pos hsame]
      exact ih
    · have hdiffers : differs baseline renames e = true := bne_iff_ne.mpr hsame
      rw [List.filter_cons_of_pos hdiffers, if_neg hsame, List.map_cons, ← ih]
      rfl

/-- The files that are reported are those that are there with another text than before. -/
theorem mem_map_deltas_iff (hdistinct : current.paths.Nodup) (path : String) :
    path ∈ (deltas baseline current renames).map (·.path) ↔
      ∃ result, current.get? path = some result ∧
        baseline.textOf (oldName renames path) ≠ result.text := by
  rw [deltas_eq, List.map_map, List.mem_map]
  constructor
  · rintro ⟨⟨path', result⟩, he, rfl⟩
    obtain ⟨hentry, hdiffers⟩ := List.mem_filter.mp he
    exact ⟨result, Results.get?_of_mem hdistinct hentry, bne_iff_ne.mp hdiffers⟩
  · rintro ⟨result, hget, hdiffers⟩
    obtain ⟨before, after, hsplit, -⟩ := Results.entries_split hdistinct hget
    have hentry : (path, result) ∈ current.entries := by
      rw [hsplit]
      exact List.mem_append_right _ List.mem_cons_self
    exact ⟨(path, result), List.mem_filter.mpr ⟨hentry, bne_iff_ne.mpr hdiffers⟩, rfl⟩

/-- **The comparison reports the files that changed, and no others**, for every mapping that calls can
make, every list of renames and every report. The walk over the committed files answers the differences
of the files whose text is not the one that stood under their old name, in order and once each, with the
delta of the two texts under the two names; the body grows by these deltas, and the flag stays. A file
whose result differs in the flag alone is not among them, nor is one without a result before that says
nothing. The walk over the new files reports those with findings, path and text, in order, and sets the
flag if there is one. Both leave what a run reports in two steps. -/
theorem comparison_reports_changed (baseline added : Results) (calls : List Results.Call)
    (renames : List Rename) (r : Report) :
    let current := Results.after calls
    ∃ ds compared reported,
      compareFiles baseline renames current.entries r = (ds, compared) ∧
      ds = (current.entries.filter (differs baseline renames)).map (difference baseline renames) ∧
      (ds.map (·.path)).Nodup ∧
      (∀ path, path ∈ ds.map (·.path) ↔ ∃ result, current.get? path = some result ∧
        baseline.textOf (oldName renames path) ≠ result.text) ∧
      (∀ path result previous, current.get? path = some result →
        baseline.get? (oldName renames path) = some previous → previous.text = result.text →
        path ∉ ds.map (·.path)) ∧
      (∀ path result, current.get? path = some result →
        baseline.get? (oldName renames path) = none → result.text = "" → path ∉ ds.map (·.path)) ∧
      compared.body = r.body ++ Report.bodyOf (ds.map (·.delta)) ∧ compared.flagged = r.flagged ∧
      (ds, compared) = (deltas baseline current renames,
        reportDeltas (deltas baseline current renames) r) ∧
      reportFiles added.entries r =
        ((added.entries.filter (·.2.warned)).map (·.1), reported) ∧
      reported.body = r.body
        ++ Report.bodyOf ((added.entries.filter (·.2.warned)).map findingBlock) ∧
      reported.flagged = (r.flagged || added.entries.any (·.2.warned)) ∧
      reported = reportFindings (findings added) r := by
  intro current
  have hdistinct : current.paths.Nodup := Results.nodup_paths_after calls
  have hmem : ∀ path, path ∈ (deltas baseline current renames).map (·.path) ↔
      ∃ result, current.get? path = some result ∧
        baseline.textOf (oldName renames path) ≠ result.text := mem_map_deltas_iff hdistinct
  refine ⟨_, _, _, compareFiles_eq baseline renames _ r, deltas_eq _ _ _, ?_, hmem, ?_, ?_,
    body_reportDeltas _ r, flagged_reportDeltas _ r, rfl, reportFiles_eq added.entries r,
    body_reportFindings _ r, ?_, rfl⟩
  · rw [deltas_eq, List.map_map]
    exact (List.filter_sublist.map _).nodup hdistinct
  · intro path result previous hget hprevious hsame hpath
    obtain ⟨result', hget', hdiffers⟩ := (hmem path).mp hpath
    obtain rfl := Option.some.inj (hget.symm.trans hget')
    rw [Results.textOf, hprevious] at hdiffers
    exact hdiffers hsame
  · intro path result hget hnone hsilent hpath
    obtain ⟨result', hget', hdiffers⟩ := (hmem path).mp hpath
    obtain rfl := Option.some.inj (hget.symm.trans hget')
    rw [Results.textOf, hnone] at hdiffers
    exact hdiffers hsilent.symm
  · rw [flagged_reportFindings]
    refine congrArg (r.flagged || ·) ?_
    rw [Bool.eq_iff_iff, Bool.not_eq_true', List.isEmpty_eq_false_iff, List.any_eq_true, ne_eq,
      Gate.findings_eq_nil_iff, not_not]

/-- Two files that change names are compared crosswise: a text that stays with its file is passed over,
also when the flag is another. -/
example :
    compareFiles (.ofList [("a.js", ⟨"x\n", true⟩), ("b.js", {})]) [⟨"a.js", "b.js"⟩, ⟨"b.js", "a.js"⟩]
      [("a.js", ⟨"", true⟩), ("b.js", ⟨"x\n", false⟩)] {} = ([], {}) := by
  rfl

end Comparison

end LintGate
