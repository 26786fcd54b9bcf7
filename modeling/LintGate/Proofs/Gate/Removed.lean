/-
Removing findings never fails a commit.

Where the lines that a linter has left to say are some of those it said before, in their order, the
difference removes lines and adds none (`newLen_eq_zero_of_sublist`). Its rows are the names of
the sides, the titles of hunks, removed lines and remarks. A row of a removed line begins with a
dash, also where the line ends at a carriage return and the next one, or the next title, stands
behind it in the same row. The other rows have no bar, but for the names. The old one stands
behind dashes, and of the new one the theorem supposes that its row is no record; such a name
would flag any change.
-/
import LintGate.Proofs.Diff.Removal
import LintGate.Proofs.Diff.Rows
import LintGate.Proofs.Gate.Introduced
import LintGate.Proofs.Pattern.Records

set_option autoImplicit false

namespace LintGate

namespace Diff

open Text

/-! ## Rows of removed lines -/

/-- A row that begins with a dash or has no bar. -/
def Silent (x : List Char) : Prop := x.head? = some '-' ∨ '|' ∉ x

theorem silent_dash (x : List Char) : Silent ('-' :: x) := .inl rfl

theorem silent_nil : Silent [] := .inr List.not_mem_nil

theorem silent_remark : Silent remark := .inr (by decide)

theorem Hunk.silent_title (h : Hunk) : Silent h.title := .inr h.bar_not_mem_title

/-- The rows that begin in a removed line are silent, and else they begin behind it. -/
theorem silent_of_mem_shown {opened : Bool} {line x s : List Char} (hline : '\n' ∉ line.dropLast)
    (h : x ∈ rowsFrom opened (shown ('-', line) ++ s)) :
    Silent x ∨ x ∈ rowsFrom (decide (EndsInReturn line)) s := by
  rcases line_cases hline with ⟨body, rfl, hbody⟩ | ⟨hreturn, hnot⟩ | ⟨hopen, hnot⟩
  · rw [decide_eq_false (not_endsInReturn_fed body)]
    rw [shown_fed, List.append_assoc, List.singleton_append,
      mem_rowsFrom_feed (feed_not_mem_marked (by decide) hbody)] at h
    refine h.imp_left ?_
    rintro ⟨-, rfl⟩
    exact silent_dash body
  · -- the row stays open, and what follows in it does not matter
    rw [decide_eq_true hreturn]
    obtain ⟨piece, pieces, hs⟩ := List.exists_cons_of_ne_nil (splitFeeds_ne_nil s)
    rw [shown_return '-' hreturn, rowsFrom,
      splitFeeds_append (feed_not_mem_marked (by decide) hnot), hs] at h
    rw [rowsFrom, hs]
    cases opened with
    | true => exact .inr h
    | false =>
      rcases List.mem_cons.mp h with rfl | h
      · exact .inl (silent_dash _)
      · exact .inr h
  · have hends : ¬EndsInReturn line := fun hreturn => by simp [hreturn.isTerminated] at hopen
    rw [decide_eq_false hends]
    rw [shown_open '-' hopen, mem_rowsFrom_feed (feed_not_mem_marked (by decide) hnot),
      mem_rowsFrom_feed feed_not_mem_remark] at h
    rcases h with ⟨-, rfl⟩ | ⟨-, rfl⟩ | h
    · exact .inl (silent_dash line)
    · exact .inl silent_remark
    · exact .inr h

/-- So it is for all removed lines of a hunk. -/
theorem silent_of_mem_marked {opened : Bool} {ms : List (Char × List Char)} {x s : List Char}
    (hms : ∀ m ∈ ms, m.1 = '-' ∧ '\n' ∉ m.2.dropLast) (h : x ∈ rowsFrom opened (ms.flatMap shown ++ s)) :
    Silent x ∨ x ∈ rowsFrom (openAfter opened ms) s := by
  induction ms generalizing opened with
  | nil => exact .inr h
  | cons m ms ih =>
    obtain ⟨hmark, hline⟩ := hms m List.mem_cons_self
    obtain ⟨c, line⟩ := m
    obtain rfl : c = '-' := hmark
    rw [List.flatMap_cons, List.append_assoc] at h
    rcases silent_of_mem_shown hline h with hsilent | h
    · exact .inl hsilent
    · exact ih (fun m hm => hms m (List.mem_cons_of_mem _ hm)) h

/-- **The rows of hunks that only remove lines are silent.** -/
theorem silent_of_mem_hunks {opened : Bool} {old new : Array String} {hs : List Hunk} {x : List Char}
    (hwell : ∀ h ∈ hs, WellMarked (h.marked old new)) (hnone : ∀ h ∈ hs, h.change.newLen = 0)
    (h : x ∈ rowsFrom opened (hs.flatMap fun h => (h.render old new).toList)) : Silent x := by
  induction hs generalizing opened with
  | nil =>
    cases opened with
    | true => cases h
    | false =>
      obtain rfl : x = [] := List.mem_singleton.mp h
      exact silent_nil
  | cons first rest ih =>
    rw [List.flatMap_cons, Hunk.toList_render, List.append_assoc, List.cons_append,
      mem_rowsFrom_feed first.feed_not_mem_title] at h
    rcases h with ⟨-, rfl⟩ | h
    · exact first.silent_title
    have hms : ∀ m ∈ first.marked old new, m.1 = '-' ∧ '\n' ∉ m.2.dropLast := by
      intro m hm
      refine ⟨?_, (hwell first List.mem_cons_self m hm).2⟩
      rw [Hunk.marked, hnone first List.mem_cons_self, linesOf_zero, List.map_nil,
        List.append_nil] at hm
      obtain ⟨line, -, rfl⟩ := List.mem_map.mp hm
      rfl
    rcases silent_of_mem_marked hms h with hsilent | h
    · exact hsilent
    · exact ih (fun h hh => hwell h (List.mem_cons_of_mem _ hh))
        (fun h hh => hnone h (List.mem_cons_of_mem _ hh)) h

end Diff

/-- A silent row is no record. -/
theorem Diff.Silent.records_eq_false {x : List Char} (h : Diff.Silent x) :
    Matcher.records (String.ofList x) = false := by
  rcases h with hdash | hbar
  · exact Matcher.records_eq_false_of_dash (by rwa [String.toList_ofList])
  · exact Matcher.records_eq_false_of_no_bar (by rwa [String.toList_ofList])

namespace ComparedFile

/-- The lines that the linter says of a file are some of those it said before, in their order. -/
def OnlyRemoves (f : ComparedFile) : Prop := (Text.lines f.after).Sublist (Text.lines f.before)

instance (f : ComparedFile) : Decidable f.OnlyRemoves :=
  inferInstanceAs (Decidable (List.Sublist _ _))

/-- The two rows that name the sides are no records, if the one of the new name is none. -/
theorem sides_rejected {oldName newName : String} {x : List Char} (hold : '\n' ∉ oldName.toList)
    (hnew : '\n' ∉ newName.toList) (hname : Matcher.records ("+++ " ++ newName) = false)
    (h : x ∈ Text.splitFeeds (Diff.sides oldName newName)) :
    Matcher.records (String.ofList x) = false := by
  have hsides : Diff.sides oldName newName
      = ("--- " ++ oldName).toList ++ '\n' :: ("+++ " ++ newName).toList := by
    have hplus : "\n+++ ".toList = '\n' :: "+++ ".toList := by decide
    simp only [Diff.sides, String.toList_append, hplus, List.append_assoc, List.cons_append]
  have hfront : '\n' ∉ ("--- " ++ oldName).toList := by
    rw [String.toList_append, List.mem_append, not_or]
    exact ⟨by decide, hold⟩
  have hback : '\n' ∉ ("+++ " ++ newName).toList := by
    rw [String.toList_append, List.mem_append, not_or]
    exact ⟨by decide, hnew⟩
  rw [hsides, Text.splitFeeds_feed, Text.splitFeeds_of_not_mem hfront,
    Text.splitFeeds_of_not_mem hback] at h
  rcases List.mem_append.mp h with h | h
  · rw [List.mem_singleton.mp h]
    refine Diff.Silent.records_eq_false (.inl ?_)
    rw [String.toList_append]
    rfl
  · rw [List.mem_singleton.mp h, String.ofList_toList]
    exact hname

/-- **No row of the difference is a record.** -/
theorem OnlyRemoves.rejects {f : ComparedFile} (h : f.OnlyRemoves) (hold : '\n' ∉ f.oldName.toList)
    (hnew : '\n' ∉ f.path.toList) (hname : Matcher.records ("+++ " ++ f.path) = false) :
    ∀ row ∈ f.rows, Matcher.records row = false := by
  intro row hrow
  obtain ⟨x, hx, rfl⟩ := List.mem_map.mp hrow
  by_cases hnil : Diff.hunksBetween (Diff.sideOf f.before) (Diff.sideOf f.after) = []
  · have hempty : f.delta = "" := by
      rw [delta, Diff.unifiedDelta]
      split
      next => rfl
      next hsome => exact absurd hnil hsome
    rw [hempty] at hx
    obtain rfl : x = [] := List.mem_singleton.mp hx
    exact Diff.silent_nil.records_eq_false
  rw [delta, Diff.toList_unifiedDelta f.oldName f.path hnil, Text.splitFeeds_feed] at hx
  rcases List.mem_append.mp hx with hx | hx
  · exact sides_rejected hold hnew hname hx
  · rw [← Diff.rowsFrom_closed] at hx
    refine Diff.Silent.records_eq_false (Diff.silent_of_mem_hunks ?_ ?_ hx)
    · exact fun hunk _ => hunk.wellMarked f.before f.after
    · exact fun hunk hhunk => Diff.newLen_eq_zero_of_sublist h hhunk

end ComparedFile

/-! ## Verdicts -/

namespace Gate

variable {σ : Type} {vcs : VersionControl σ} {linter : Linter σ} {options : Options}
  {session : Session σ}

/-- **Only removing findings never fails a commit.** If the lines that the linter says of a file are
some of those it said before, in their order, then the default matcher finds nothing in the
difference, and every run that compares the file calls it clean if nothing changed and improved
otherwise. Lines end at a line feed, at a carriage return, or at both. -/
theorem removal_improves {f : ComparedFile} (h : f.OnlyRemoves) (hold : '\n' ∉ f.oldName.toList)
    (hnew : '\n' ∉ f.path.toList) (hname : Matcher.records ("+++ " ++ f.path) = false) :
    detectsDefect (Diff.unifiedDelta f.before f.after f.oldName f.path) Matcher.records = false ∧
      f.verdict Matcher.records = (if f.before = f.after then .clean else .improved) ∧
      (Compares vcs linter options session f → ∀ log time o,
        (run vcs linter Matcher.records options log time session).1 = .ok o →
        ∀ v, (f.path, v) ∈ o.verdicts ↔ v = if f.before = f.after then .clean else .improved) := by
  have hrejects := h.rejects hold hnew hname
  have hnone : f.rows.any Matcher.records = false := by
    refine List.any_eq_false.mpr fun row hrow => ?_
    rw [hrejects row hrow]
    exact Bool.false_ne_true
  have hverdict : f.verdict Matcher.records = if f.before = f.after then .clean else .improved := by
    rw [ComparedFile.verdict, hnone]
    rfl
  refine ⟨hnone, hverdict, fun hcompares log time o hrun => ?_⟩
  rw [← hverdict]
  exact (run_compared hcompares hrun).1

/-- Findings of which two are alike, with each kind of terminator and none at the end. -/
def trimmedBefore : String := "a|E0|x\r\nb\ra|E0|x\r\nc|E1|y"

/-- The same without the first and the last of them. -/
def trimmedAfter : String := "b\ra|E0|x\r\n"

/-- Of two findings alike the first goes, and with it the last one, which has no terminator. A run that
compares the file calls it improved. -/
theorem removal_improves_trimmed :
    (editedFile trimmedBefore trimmedAfter).OnlyRemoves ∧
      Matcher.records ("+++ " ++ "a.js") = false ∧
      Compares Rehearsal.versionControl (Rehearsal.linter (editPlan trimmedBefore trimmedAfter)) {}
        (editSession trimmedBefore trimmedAfter) (editedFile trimmedBefore trimmedAfter) ∧
      ∃ o, (run Rehearsal.versionControl (Rehearsal.linter (editPlan trimmedBefore trimmedAfter))
        Matcher.records {} emptyLog "" (editSession trimmedBefore trimmedAfter)).1 = .ok o ∧
        ("a.js", .improved) ∈ o.verdicts := by
  have hremoves : (editedFile trimmedBefore trimmedAfter).OnlyRemoves := by decide +kernel
  have hname : Matcher.records ("+++ " ++ "a.js") = false := by decide +kernel
  have hf := editedFile_compares trimmedBefore trimmedAfter
    (Prod.ext (by decide +kernel) rfl) (by decide +kernel)
  obtain ⟨o, hrun⟩ := run_emptyLog Matcher.records hf
  obtain ⟨-, -, hverdicts⟩ := removal_improves hremoves (by decide) (by decide) hname
  have hne : trimmedBefore ≠ trimmedAfter := by decide
  exact ⟨hremoves, hname, hf, o, hrun, (hverdicts hf emptyLog "" o hrun .improved).mpr (if_neg hne).symm⟩

end Gate

end LintGate
