/-
The rows of a report that the default matcher accepts.

A report holds the output of linters and what the difference puts around it: the names of the
sides, the titles of hunks, the remark on a missing terminator. `Matcher.records_accepts` says
which of its rows count as introduced defects. Of the rows put around, all but one are never
accepted, whatever the names of the files: they begin with a dash or have no bar. The exception
is the row of the new name, and the theorem does not speak of it. A row with the mark of an
added line is accepted exactly if the line behind the mark has the fields of a record.
-/
import LintGate.Proofs.Diff.Rows
import LintGate.Proofs.Pattern.Records

set_option autoImplicit false

namespace LintGate.Matcher

/-- The mark of an added line is no dash. -/
theorem isRecord_added {line : List Char} (h : '\n' ∉ line) : IsRecord ('+' :: line) ↔ HasFields line := by
  have hline : line.takeWhile (· ≠ '\n') = line := by
    rw [List.takeWhile_eq_self_iff]
    intro c hc
    rw [decide_eq_true_iff]
    rintro rfl
    exact h hc
  constructor
  · rintro ⟨mark, rest, hrow, -, hfields⟩
    cases hrow
    rwa [hline] at hfields
  · intro hfields
    refine ⟨'+', line, rfl, by decide, ?_⟩
    rwa [hline]

theorem records_title (oldFrom oldTo newFrom newTo : Nat) :
    records ("@@ -" ++ Diff.showRange oldFrom oldTo ++ " +" ++ Diff.showRange newFrom newTo ++ " @@")
      = false := by
  apply records_eq_false_of_no_bar
  exact Diff.Hunk.bar_not_mem_title ⟨⟨0, 0, 0, 0⟩, oldFrom, oldTo, newFrom, newTo⟩

/-- **The default matcher accepts exactly the records that are not marked as removed.** A row is accepted
if and only if it begins with a character that is no dash, and behind that, in front of the next feed,
stand two bars with something between them and something behind the second. So a report holds an
introduced defect if and only if one of its rows has that shape. The row of an old name, the title of a
hunk, an empty row and the remark on a missing terminator never have it, and the row of an added line
has it if and only if the line has two such bars. -/
theorem records_accepts :
    (∀ row : String, records row = true ↔ IsRecord row.toList) ∧
    (∀ report : String, detectsDefect report records = true ↔
      ∃ row ∈ Text.pieces report, IsRecord row.toList) ∧
    (∀ oldName : String, records ("--- " ++ oldName) = false) ∧
    (∀ oldFrom oldTo newFrom newTo : Nat, records ("@@ -" ++ Diff.showRange oldFrom oldTo ++ " +"
      ++ Diff.showRange newFrom newTo ++ " @@") = false) ∧
    records "" = false ∧ records "\\ No newline at end of file" = false ∧
    ∀ line : String, '\n' ∉ line.toList → (records ("+" ++ line) = true ↔ HasFields line.toList) := by
  refine ⟨records_iff, ?_, ?_, records_title, ?_, ?_, ?_⟩
  · intro report
    rw [detectsDefect, List.any_eq_true]
    simp only [records_iff]
  · intro oldName
    apply records_eq_false_of_dash
    rw [String.toList_append]
    rfl
  · exact records_eq_false_of_no_bar (by decide)
  · exact records_eq_false_of_no_bar (by decide)
  · intro line hline
    rw [records_iff, String.toList_append]
    exact isRecord_added hline

/-- A field may hold bars, and the first one may be empty: what counts is that two bars can be chosen. -/
theorem records_accepts_bars : '\n' ∉ "||a|b".toList ∧ records ("+" ++ "||a|b") = true := by
  obtain ⟨-, -, -, -, -, -, hadded⟩ := records_accepts
  have hline : '\n' ∉ "||a|b".toList := by decide
  refine ⟨hline, (hadded "||a|b" hline).mpr ?_⟩
  exact ⟨[], ['|', 'a'], ['b'], by decide, by decide, by decide⟩

end LintGate.Matcher
