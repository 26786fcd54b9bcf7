/-
A run over files that no linter is responsible for.

Such a run should be one that does nothing and passes. The workspace is left alone: the
three questions that tell the staged files apart are all that is asked. But there is no
short cut for the rest. Empty results are compared, an empty report is classified and
finished, and an empty report has a line, the empty one. So the run is flagged exactly when
the matcher takes an empty line for a defect. The default matcher does not; a pattern that
a user configures may, and then a log is written that has nothing in it but the time.
-/
import LintGate.Proofs.Gate.Agreement

set_option autoImplicit false

namespace LintGate

variable {σ : Type} {vcs : VersionControl σ} {linter : Linter σ} {session session₁ : Session σ}
  {files : StagedFiles}

/-! ## Nothing is linted -/

/-- The staged files that were told apart were asked for in three questions. -/
theorem StagedFiles.classify_asked
    (hclassify : classify vcs session = (.ok files, session₁)) :
    ∃ compared added renames, files = ofAnswers compared added renames ∧
      session₁.events = session.events ++ [.stagedPaths comparedKinds (.ok compared),
        .stagedPaths addedKind (.ok added), .stagedRenames (.ok renames)] := by
  -- a linter has no part in it
  have hdoes := does_classify_asked vcs ⟨fun _ _ => pure (.ok none), fun _ _ => false⟩ session
  rw [hclassify] at hdoes
  obtain ⟨es, hes, -, hasked⟩ := hdoes
  cases hasked
  exact ⟨_, _, _, rfl, hes⟩

/-- Files without a linter are not linted, and nothing is asked for them. -/
theorem Snapshot.take_unlinted {mode : Option String} (verbose : Bool)
    (hunlinted : ∀ path ∈ files.currentPaths, linter.handles path mode = false) :
    take vcs linter mode files verbose session = (.ok {}, session) := by
  have hnone : (files.currentPaths.any fun path => linter.handles path mode) = false := by
    rw [List.any_eq_false]
    intro path hpath
    rw [hunlinted path hpath]
    exact Bool.false_ne_true
  rw [take, hnone]
  rfl

namespace Gate

/-- Of empty results there are no verdicts, and the report is flagged if an empty line counts as a
defect. -/
theorem judge_empty (matcher : Matcher) (files : StagedFiles) :
    judge matcher files {} = ⟨⟨"", matcher ""⟩, []⟩ := by
  have hflagged : detectsDefect "" matcher = matcher "" := detectsDefect_empty matcher
  simp only [judge, Comparison.deltas, Comparison.findings, Comparison.reportDeltas,
    Comparison.reportFindings, Report.classify, Results.paths, List.filterMap_nil, List.filter_nil,
    List.map_nil, List.foldl_nil, List.append_nil, hflagged, Bool.false_or]

/-! ## The run -/

variable {options : Options} {log : Spot σ} {found : Option Entry}

/-- **A run over files that no linter is responsible for** asks for the staged files and makes no other
call. It has an outcome, without verdicts and without failures. Flagged it is exactly if the matcher
takes an empty line for a defect: otherwise no log is left, whatever it held, and a flagged run leaves
one that has nothing in it but the time. What stands at the log is read behind the three questions,
which may do to the world what they like. -/
theorem run_unlinted (matcher : Matcher) (time : String) (hlog : log.place.Lawful)
    (hclassify : StagedFiles.classify vcs session = (.ok files, session₁))
    (hunlinted : ∀ path ∈ files.currentPaths, linter.handles path options.mode = false)
    (hfound : log.Shows session₁.world found) (hfile : ∀ entries, found ≠ some (.folder entries)) :
    ∃ compared added renames session',
      files = .ofAnswers compared added renames ∧
      run vcs linter matcher options log time session
        = (.ok ⟨matcher "", [], [], matcher ""⟩, session') ∧
      session'.events = session.events ++ [.stagedPaths StagedFiles.comparedKinds (.ok compared),
        .stagedPaths StagedFiles.addedKind (.ok added), .stagedRenames (.ok renames)] ∧
      log.Shows session'.world
        (if matcher "" then some (.file (Bytes.ofText (time ++ "\n")) false) else none) := by
  obtain ⟨compared, added, renames, hfiles, hevents⟩ := StagedFiles.classify_asked hclassify
  have htake : Snapshot.take vcs linter options.mode files options.verbose session₁
      = (.ok {}, session₁) := Snapshot.take_unlinted options.verbose hunlinted
  obtain ⟨world, hfinish, hleft⟩ := Report.finish_shows hlog ⟨"", matcher ""⟩ time hfound hfile
  refine ⟨compared, added, renames, ⟨world, session₁.events⟩, hfiles, ?_, hevents, ?_⟩
  · have hempty : ({} : Snapshots).excludeFailures files = {} := rfl
    rw [run_eq hclassify htake, hempty, judge_empty]
    simp only [conclude, bind, StateT.bind, Act.quietly, hfinish]
    rfl
  · have hcontent : (⟨"", matcher ""⟩ : Report).content time = Bytes.ofText (time ++ "\n") := by
      rw [Report.content, String.append_empty]
    rw [hcontent] at hleft
    exact hleft

/-! ## Rehearsed runs -/

/-- A rehearsal in which nothing is staged, with a log from an earlier run. -/
def idleSession : Session Rehearsal.Stage :=
  { world := { folder := some [("lintdiff.log", .file (Bytes.ofText "stale") false)] } }

/-- A run in which nothing is staged. -/
def idleRun (matcher : Matcher) : Except RunError Outcome × Session Rehearsal.Stage :=
  run Rehearsal.versionControl (Rehearsal.linter {}) matcher {} editLog "now" idleSession

/-- With the default matcher it passes, and the log of the earlier run is gone. -/
theorem run_unlinted_idle :
    Matcher.records "" = false ∧ editLog.look idleSession.world ≠ none ∧
      ∃ session', idleRun Matcher.records = (.ok ⟨false, [], [], false⟩, session') ∧
        editLog.look session'.world = none := by
  have hblank : Matcher.records "" = false := by decide +kernel
  obtain ⟨session₁, hclassify⟩ : ∃ session₁,
      StagedFiles.classify Rehearsal.versionControl idleSession = (.ok {}, session₁) := ⟨_, rfl⟩
  have hfound : editLog.Shows session₁.world (some (.file (Bytes.ofText "stale") false)) := by
    cases hclassify
    exact ⟨_, rfl, rfl⟩
  have hunlinted : ∀ path ∈ ({} : StagedFiles).currentPaths,
      (Rehearsal.linter {}).handles path ({} : Options).mode = false := fun _ h => nomatch h
  obtain ⟨_, _, _, session', -, hrun, -, hleft⟩ := run_unlinted Matcher.records "now"
    Rehearsal.place_lawful hclassify hunlinted hfound (by rintro _ ⟨⟩)
  rw [hblank] at hrun hleft
  exact ⟨hblank, by rintro ⟨⟩, session', hrun, hleft.look⟩

/-- **A run in which nothing is staged and which is flagged all the same**: the configured pattern
matches the empty line. The log that is written is the time and nothing else. -/
theorem idle_run_flagged :
    ∃ matcher, Matcher.ofPattern ".*" = .ok matcher ∧
      (idleRun matcher).1.toOption.map (fun o => (o.flagged, o.verdicts, o.logWritten))
        = some (true, [], true) ∧
      (editLog.look (idleRun matcher).2.world).map
          (fun | .file content _ => content | .folder _ => []) = some (Bytes.ofText "now\n") :=
  ⟨_, rfl, by decide +kernel, by decide +kernel⟩

end Gate

end LintGate
