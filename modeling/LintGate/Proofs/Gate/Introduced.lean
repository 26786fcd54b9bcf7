/-
When the gate catches a line that a commit introduces.

A line that the linters say more often after the commit than before should make its file
regressed and flag the run, for every matcher that accepts it under the mark of an added
line. The exact condition for that is that the marked line is a row of the file's
difference.

For a line without carriage returns this means that an added copy of it stands alone in
its row. Where every carriage return of both outputs is followed by a line feed, every
line that is introduced has such a row. Where one stands alone it ends a line of the
difference but not a row, so that the next line is glued to it: an introduced defect may
stand behind a removed line, in a row that carries the mark of that one, and is missed.
The run at the end is such a case.
-/
import LintGate.Rehearsal
import LintGate.Proofs.Diff.Rows
import LintGate.Proofs.Gate.Verdicts

set_option autoImplicit false

namespace LintGate.Gate

variable {σ : Type} {vcs : VersionControl σ} {linter : Linter σ} {options : Options}
  {session : Session σ} {f : ComparedFile} {l : String}

/-! ## Rows of a compared file -/

theorem mem_rows_iff : "+" ++ l ∈ f.rows ↔ '+' :: l.toList ∈ Text.splitFeeds f.delta.toList := by
  have hmark : "+" ++ l = String.ofList ('+' :: l.toList) := by
    rw [← String.toList_inj, String.toList_append, String.toList_ofList (l := '+' :: l.toList)]
    rfl
  rw [ComparedFile.rows, Text.pieces, hmark,
    List.mem_map_of_injective fun _ _ => String.ofList_injective]

/-- A line without carriage returns is a row of a difference exactly if an added copy of it stands
alone in its row, or the names of the sides hold it. -/
theorem mem_rows_iff_shownAlone (hne : f.before ≠ f.after) (hl : '\r' ∉ l.toList) :
    "+" ++ l ∈ f.rows ↔ Diff.ShownAlone f.before f.after l.toList ∨
      '+' :: l.toList ∈ Text.splitFeeds (Diff.sides f.oldName f.path) :=
  mem_rows_iff.trans (Diff.mem_pieces_iff f.oldName f.path hne hl)

/-- Where every carriage return is followed by a feed, each line that is introduced is a row. -/
theorem mem_rows_of_introduced (hbefore : Text.ReturnsPaired f.before.toList)
    (hafter : Text.ReturnsPaired f.after.toList)
    (h : Diff.Introduced f.before f.after l.toList) : "+" ++ l ∈ f.rows :=
  mem_rows_iff.mpr ((Diff.shownAlone_of_introduced hbefore hafter h).mem_pieces f.oldName f.path)

/-! ## Runs that always end well -/

/-- A log in a directory that is empty whenever it is looked at. -/
def emptyLog : Spot σ := ⟨⟨fun _ => some [], fun _ s => s⟩, "log", "log"⟩

theorem finish_emptyLog (r : Report) (time : String) (s : σ) :
    ∃ written, (r.finish time emptyLog s).1 = .ok written := by
  unfold Report.finish
  split
  · exact ⟨true, rfl⟩
  · exact ⟨false, rfl⟩

/-- With such a log a run that compares files has an outcome, whatever the matcher. -/
theorem run_emptyLog (matcher : Matcher) (hf : Compares vcs linter options session f) :
    ∃ o, (run vcs linter matcher options emptyLog "" session).1 = .ok o := by
  obtain ⟨files, session₁, snap, session₂, hclassify, htake, -⟩ := hf
  rw [run_eq hclassify htake]
  unfold conclude
  simp only [bind, StateT.bind, Act.quietly]
  obtain ⟨written, hwritten⟩ := finish_emptyLog
    (judge matcher files (snap.excludeFailures files)).report "" session₂.world
  generalize Report.finish _ "" emptyLog session₂.world = finished at hwritten ⊢
  obtain ⟨answer, world⟩ := finished
  cases hwritten
  exact ⟨_, rfl⟩

/-! ## The exact condition -/

/-- Whether a line is caught: each run that ends well with a matcher that accepts it under the mark of
an added line gives the file no verdict but regressed, and is flagged. -/
def Catches (vcs : VersionControl σ) (linter : Linter σ) (options : Options) (session : Session σ)
    (path l : String) : Prop :=
  ∀ (matcher : Matcher) (log : Spot σ) (time : String) (o : Outcome),
    (run vcs linter matcher options log time session).1 = .ok o → matcher ("+" ++ l) = true →
    (∀ v, (path, v) ∈ o.verdicts ↔ v = .regressed) ∧ o.flagged = true

/-- **When the gate catches a line.** A line of a compared file whose output changed is caught exactly
when the marked line is a row of the file's difference. For a line without carriage returns this is
so when an added copy of it stands alone in its row, or when the names of the sides hold it. Where
every carriage return of both outputs is followed by a line feed, it is so for every line that is
introduced: one that holds something is introduced if it is a piece between feeds more often. -/
theorem catches_iff (hf : Compares vcs linter options session f) (hne : f.before ≠ f.after)
    (l : String) :
    (Catches vcs linter options session f.path l ↔ "+" ++ l ∈ f.rows) ∧
    ('\r' ∉ l.toList → ("+" ++ l ∈ f.rows ↔ Diff.ShownAlone f.before f.after l.toList ∨
      '+' :: l.toList ∈ Text.splitFeeds (Diff.sides f.oldName f.path))) ∧
    (Text.ReturnsPaired f.before.toList → Text.ReturnsPaired f.after.toList →
      Diff.Introduced f.before f.after l.toList → "+" ++ l ∈ f.rows) ∧
    (l ≠ "" → (Diff.Introduced f.before f.after l.toList ↔
      (Text.pieces f.before).count l < (Text.pieces f.after).count l)) := by
  refine ⟨⟨fun hcaught => ?_, fun hrow matcher log time o hrun hmatch => ?_⟩,
    mem_rows_iff_shownAlone hne, mem_rows_of_introduced,
    fun hl => Diff.introduced_iff_pieces hl f.before f.after⟩
  · -- the matcher that accepts this line only tells whether it is a row
    obtain ⟨o, hrun⟩ := run_emptyLog (fun row => row == "+" ++ l) hf
    have hverdicts := (run_compared hf hrun).1
    have hregressed := (hcaught _ emptyLog "" o hrun (beq_self_eq_true _)).1
    have hverdict := (hverdicts .regressed).mp ((hregressed .regressed).mpr rfl)
    obtain ⟨row, hrow, heq⟩ := (ComparedFile.verdict_eq_regressed_iff hne).mp hverdict.symm
    rw [← beq_iff_eq.mp heq]
    exact hrow
  · have hverdict : f.verdict matcher = .regressed :=
      (ComparedFile.verdict_eq_regressed_iff hne).mpr ⟨_, hrow, hmatch⟩
    obtain ⟨hverdicts, hflagged⟩ := run_compared hf hrun
    rw [hverdict] at hverdicts
    exact ⟨hverdicts, hflagged hverdict⟩

/-! ## A file that is rehearsed -/

/-- One modified file, and what a linter says of it before and after. -/
def editPlan (before after : String) : Rehearsal.Plan :=
  { staged := [(.modified, "a.js")]
    replies := [(.staged, [("a.js", .answer { text := after, warned := true })]),
      (.baseline, [("a.js", .answer { text := before, warned := true })])] }

def editSession (before after : String) : Session Rehearsal.Stage :=
  { world := { plan := editPlan before after } }

def editedFile (before after : String) : ComparedFile := ⟨"a.js", "a.js", before, after⟩

def editLog : Spot Rehearsal.Stage := ⟨Rehearsal.place, "lintdiff.log", "lintdiff.log"⟩

def editSnapshots (before after : String) : Snapshots :=
  { current := ⟨[("a.js", ⟨after, true⟩)]⟩, baseline := ⟨[("a.js", ⟨before, true⟩)]⟩ }

/-- The file is compared if both sides were linted as the plan has it. -/
theorem editedFile_compares (before after : String) {session₁ : Session Rehearsal.Stage}
    (hclassify : StagedFiles.classify Rehearsal.versionControl (editSession before after)
      = (.ok { modifiedOrCopied := ["a.js"] }, session₁))
    (htake : (Snapshot.take Rehearsal.versionControl (Rehearsal.linter (editPlan before after)) none
      { modifiedOrCopied := ["a.js"] } false session₁).1 = .ok (editSnapshots before after)) :
    Compares Rehearsal.versionControl (Rehearsal.linter (editPlan before after)) {}
      (editSession before after) (editedFile before after) := by
  have hresult : (editSnapshots before after).current.get? "a.js" = some ⟨after, true⟩ := rfl
  have hunfailed : ∀ failure ∈ (editSnapshots before after).failures, failure.path ≠ "a.js" :=
    fun _ hfailure => absurd hfailure List.not_mem_nil
  exact compares_sameName hclassify (Prod.ext htake rfl) hunfailed hresult

def pairedBefore : String := "e|E0|y\r\n"

def pairedAfter : String := "e|E0|y\r\nf|E1|x\r\n"

/-- A line in front of a carriage return and a feed is introduced behind another one, and caught. -/
theorem catches_iff_paired :
    Compares Rehearsal.versionControl (Rehearsal.linter (editPlan pairedBefore pairedAfter)) {}
        (editSession pairedBefore pairedAfter) (editedFile pairedBefore pairedAfter) ∧
      pairedBefore ≠ pairedAfter ∧
      Diff.Introduced pairedBefore pairedAfter "f|E1|x\r".toList ∧
      Catches Rehearsal.versionControl (Rehearsal.linter (editPlan pairedBefore pairedAfter)) {}
        (editSession pairedBefore pairedAfter) "a.js" "f|E1|x\r" := by
  have hf := editedFile_compares pairedBefore pairedAfter
    (Prod.ext (by decide +kernel) rfl) (by decide +kernel)
  have hne : pairedBefore ≠ pairedAfter := by decide
  have hnew : Diff.Introduced pairedBefore pairedAfter "f|E1|x\r".toList := by decide +kernel
  obtain ⟨hcaught, -, hpaired, -⟩ := catches_iff hf hne "f|E1|x\r"
  exact ⟨hf, hne, hnew, hcaught.mpr (hpaired (by decide +kernel) (by decide +kernel) hnew)⟩

/-! ## A line that is missed -/

/-- Ends at a carriage return alone. -/
def gluedBefore : String := "a\r"

def gluedAfter : String := "f|E1|x\n"

/-- **An introduced line that is not caught.** The line is no piece of the text before and one of the
text after, and the matcher of the configuration accepts it under the mark of an added line. The
difference holds it in the row of the removed line, whose carriage return ends no row: the file counts
as improved, and the run is not flagged. -/
theorem glued_row_missed :
    Compares Rehearsal.versionControl (Rehearsal.linter (editPlan gluedBefore gluedAfter)) {}
        (editSession gluedBefore gluedAfter) (editedFile gluedBefore gluedAfter) ∧
      (Text.pieces gluedBefore).count "f|E1|x" < (Text.pieces gluedAfter).count "f|E1|x" ∧
      Matcher.records ("+" ++ "f|E1|x") = true ∧
      (run Rehearsal.versionControl (Rehearsal.linter (editPlan gluedBefore gluedAfter))
        Matcher.records {} editLog "" (editSession gluedBefore gluedAfter)).1.toOption.map
          (fun o => (o.flagged, o.verdicts)) = some (false, [("a.js", .improved)]) := by
  have hf := editedFile_compares gluedBefore gluedAfter
    (Prod.ext (by decide +kernel) rfl) (by decide +kernel)
  exact ⟨hf, by decide +kernel, by decide +kernel, by decide +kernel⟩

end LintGate.Gate
