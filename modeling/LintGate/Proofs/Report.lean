/-
What a report finds in its body, and what it leaves in place of the log.

A block is pushed behind a separator that begins and ends with a line feed. So the pieces
of a body are those of its blocks and empty ones between them: no line is cut or glued at
the border of two blocks, and a defect is found in a body exactly when it is found in one
of the blocks, or when an empty line is taken for one.

A report that is finished with success leaves a file as the log if it was flagged, and
nothing at all if it was not.
-/
import LintGate.Comparison
import LintGate.Proofs.Files.Place
import LintGate.Proofs.Text.Feeds

set_option autoImplicit false

namespace LintGate

/-! ## Lines of a body -/

/-- An empty text has one line, which is empty. -/
theorem detectsDefect_empty (matcher : Matcher) : detectsDefect "" matcher = matcher "" := by
  have hpieces : Text.pieces "" = [""] := by decide
  rw [detectsDefect, hpieces, List.any_cons, List.any_nil, Bool.or_false]

namespace Report

/-- The lines of a body with one more block: those that it had, empty ones, those of the block. -/
theorem pieces_push (r : Report) (block : String) :
    Text.pieces (r.push block).body = Text.pieces r.body ++ ["", ""] ++ Text.pieces block := by
  have hseparator : separator.toList = '\n' :: '\n' :: ['\n'] := by decide
  have hbody : (r.push block).body.toList
      = r.body.toList ++ '\n' :: ([] ++ '\n' :: ([] ++ '\n' :: block.toList)) := by
    rw [push, String.toList_append, String.toList_append, hseparator, List.append_assoc]
    rfl
  simp only [Text.pieces, hbody, Text.splitFeeds_feed, Text.splitFeeds_nil, List.map_append,
    List.append_assoc]
  rfl

theorem detectsDefect_push (r : Report) (block : String) (matcher : Matcher) :
    detectsDefect (r.push block).body matcher
      = (detectsDefect r.body matcher || matcher "" || detectsDefect block matcher) := by
  simp only [detectsDefect, pieces_push, List.any_append, List.any_cons, List.any_nil,
    Bool.or_false, Bool.or_self]

end Report

namespace Comparison

/-- In a body where an empty line is found if it counts as a defect, as it is in every body, reported
differences add what is found in them and nothing else. -/
theorem detectsDefect_reportDeltas {matcher : Matcher} (ds : List FileDelta) {r : Report}
    (hblank : matcher "" = true → detectsDefect r.body matcher = true) :
    detectsDefect (reportDeltas ds r).body matcher
      = (detectsDefect r.body matcher || ds.any fun d => detectsDefect d.delta matcher) := by
  unfold reportDeltas
  induction ds generalizing r with
  | nil => rw [List.foldl_nil, List.any_nil, Bool.or_false]
  | cons d ds ih =>
    have hpush : detectsDefect (r.push d.delta).body matcher
        = (detectsDefect r.body matcher || detectsDefect d.delta matcher) := by
      rw [Report.detectsDefect_push, Bool.or_eq_left_iff_imp.mpr hblank]
    rw [List.foldl_cons, ih fun h => by rw [hpush, hblank h, Bool.true_or], hpush, List.any_cons,
      Bool.or_assoc]

theorem flagged_reportDeltas (ds : List FileDelta) (r : Report) :
    (reportDeltas ds r).flagged = r.flagged := by
  unfold reportDeltas
  induction ds generalizing r with
  | nil => rfl
  | cons d ds ih => exact ih (r.push d.delta)

/-- Reporting new files flags the report unless there are none. -/
theorem flagged_reportFindings (fs : List (String × LintResult)) (r : Report) :
    (reportFindings fs r).flagged = (r.flagged || !fs.isEmpty) := by
  unfold reportFindings
  induction fs generalizing r with
  | nil => exact (Bool.or_false _).symm
  | cons f fs ih =>
    rw [List.foldl_cons, ih]
    simp [Report.flag]

end Comparison

/-! ## The log -/

namespace Report

variable {σ : Type} {log : Spot σ} {s s' : σ}

/-- To replace a file is to make one and to rename it. If that fails, everything is as it was. -/
theorem replaceFile_eq (f : Folder) (name : String) (content : Bytes) :
    replaceFile name content f
      = match (f.put f.freeName (.file content false)).rename f.freeName name with
        | .error e => (.error e, f)
        | .ok named => (.ok (), named) := by
  have hcreate : f.create f.freeName = .ok (f.put f.freeName (.file [] false)) := by
    rw [Folder.create, f.get?_freeName]
  have hwrite : (f.put f.freeName (.file [] false)).write f.freeName content
      = .ok (f.put f.freeName (.file content false)) := by
    rw [Folder.write, Folder.get?_put_self]
    exact congrArg Except.ok (Folder.put_put f _ _ _)
  have hgone : (f.put f.freeName (.file content false)).erase f.freeName = f :=
    Folder.erase_put_of_free _ f.get?_freeName
  simp only [replaceFile, fillAndName, Folder.perform, bind, StateT.bind, get, getThe,
    MonadStateOf.get, StateT.get, pure, hcreate, hwrite]
  cases (f.put f.freeName (.file content false)).rename f.freeName name with
  | error e => exact congrArg (Prod.mk _) hgone
  | ok named => rfl

theorem replaceFile_folder {f : Folder} {name : String} {entries : List (String × Entry)}
    (content : Bytes) (h : f.get? name = some (.folder entries)) :
    replaceFile name content f = (.error .isDirectory, f) := by
  rw [replaceFile_eq, Folder.rename_put_folder f.get?_freeName h]

theorem replaceFile_file {f : Folder} {name : String} (content : Bytes)
    (h : ∀ entries, f.get? name ≠ some (.folder entries)) :
    replaceFile name content f = (.ok (), f.put name (.file content false)) := by
  rw [replaceFile_eq, Folder.rename_put f.get?_freeName h]

/-- What finishing a report comes to: what the directory of the log held, the answer, and what the
directory holds then. -/
inductive Finished (name : String) (content : Bytes) :
    Bool → Option Folder → Except Fault Bool → Option Folder → Prop where
  | written {f : Folder} (h : ∀ entries, f.get? name ≠ some (.folder entries)) :
      Finished name content true (some f) (.ok true) (some (f.put name (.file content false)))
  | removed {f : Folder} (h : ∀ entries, f.get? name ≠ some (.folder entries)) :
      Finished name content false (some f) (.ok false) (some (f.erase name))
  | nothing : Finished name content false none (.ok false) none
  | nowhere : Finished name content true none (.error .notFound) none
  | occupied {flagged : Bool} {f : Folder} {entries : List (String × Entry)}
      (h : f.get? name = some (.folder entries)) :
      Finished name content flagged (some f) (.error .isDirectory) (some f)

/-- **A report is finished in one of these ways**, wherever its log is to be. -/
theorem finishes (hlog : log.place.Lawful) (r : Report) (time : String) (s : σ) :
    Finished log.name (r.content time) r.flagged (log.place.look s) (r.finish time log s).1
      (log.place.look (r.finish time log s).2) := by
  cases hflagged : r.flagged with
  | true =>
    have hfinish : r.finish time log s
        = ((log.place.within (replaceFile log.name (r.content time)) s).1.map fun _ => true,
          (log.place.within (replaceFile log.name (r.content time)) s).2) := by
      simp only [finish, hflagged, if_true, bind, StateT.bind]
      rfl
    rw [hfinish]
    cases hlook : log.place.look s with
    | none =>
      have hwithin : log.place.within (replaceFile log.name (r.content time)) s
          = (.error .notFound, s) := by
        simp only [Place.within, hlook]
      rw [hwithin, hlook]
      exact .nowhere
    | some f =>
      have hsome : (log.place.look s).isSome := by rw [hlook]; rfl
      rw [Place.within_of_look hlook, hlog.look_change _ s hsome]
      by_cases hfolder : ∃ entries, f.get? log.name = some (.folder entries)
      · obtain ⟨entries, hentries⟩ := hfolder
        rw [replaceFile_folder _ hentries]
        exact .occupied hentries
      · push Not at hfolder
        rw [replaceFile_file _ hfolder]
        exact .written hfolder
  | false =>
    have hfinish : r.finish time log s
        = ((log.clear s).1.map fun _ => false, (log.clear s).2) := by
      simp only [finish, hflagged, Bool.false_eq_true, if_false, bind, StateT.bind]
      rfl
    rw [hfinish]
    cases hlook : log.place.look s with
    | none =>
      rw [Spot.clear_missing hlook, hlook]
      exact .nothing
    | some f =>
      by_cases hfolder : ∃ entries, f.get? log.name = some (.folder entries)
      · obtain ⟨entries, hentries⟩ := hfolder
        have hshows : log.Shows s (some (.folder entries)) := ⟨f, hlook, hentries⟩
        rw [hshows.clear_folder, hlook]
        exact .occupied hentries
      · push Not at hfolder
        obtain ⟨s', hclear, hlook'⟩ := Spot.clear_of_look hlog hlook hfolder
        rw [hclear, hlook']
        exact .removed hfolder

/-- **What a finished report leaves.** It answers its flag; the log is a file if the flag is set, and
nothing stands in its place if it is not. -/
theorem finish_ok (hlog : log.place.Lawful) {r : Report} {time : String} {written : Bool}
    (h : r.finish time log s = (.ok written, s')) :
    written = r.flagged ∧
      log.look s' = if r.flagged then some (.file (r.content time) false) else none := by
  have hfinished := finishes hlog r time s
  rw [h] at hfinished
  generalize hflagged : r.flagged = flagged at hfinished ⊢
  generalize hlook : log.place.look s' = after at hfinished
  generalize log.place.look s = before at hfinished
  cases hfinished with
  | written => exact ⟨rfl, (Spot.look_eq hlook).trans (Folder.get?_put_self _ _ _)⟩
  | removed => exact ⟨rfl, (Spot.look_eq hlook).trans (Folder.get?_erase_self _ _)⟩
  | nothing => exact ⟨rfl, Spot.look_eq_none hlook⟩

/-- **What finishing a report takes.** In a directory that is there, and with no directory in place of
the log, a report is finished: it answers its flag, and the log has the report in it or is gone. -/
theorem finish_shows (hlog : log.place.Lawful) (r : Report) (time : String) {found : Option Entry}
    (hfound : log.Shows s found) (hfile : ∀ entries, found ≠ some (.folder entries)) :
    ∃ s', r.finish time log s = (.ok r.flagged, s') ∧
      log.Shows s' (if r.flagged then some (.file (r.content time) false) else none) := by
  obtain ⟨f, hlook, rfl⟩ := hfound
  have hfinished := finishes hlog r time s
  rw [hlook] at hfinished
  generalize r.finish time log s = finished at hfinished ⊢
  obtain ⟨answer, s'⟩ := finished
  dsimp only at hfinished
  generalize r.flagged = flagged at hfinished ⊢
  generalize hlook' : log.place.look s' = after at hfinished
  cases hfinished with
  | written => exact ⟨s', rfl, _, hlook', Folder.get?_put_self _ _ _⟩
  | removed => exact ⟨s', rfl, _, hlook', Folder.get?_erase_self _ _⟩
  | occupied hentries => exact absurd hentries (hfile _)

end Report

end LintGate
