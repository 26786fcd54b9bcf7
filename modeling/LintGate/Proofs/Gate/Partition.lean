/-
The roles of a commit's files.

The version control is asked three questions, and its answers may overlap in any way: a path
may be reported as modified, as added and as the new name of several renames. Telling the files
apart gives every such path one role. The renames are filtered by the modified files, and the
added files by these and by the renames that are left; filtering them by all renames comes to the
same, because a rename that was taken out has a modified file's name (`ofAnswers_added`). So each
role is told by the answers alone: modified or copied goes before renamed, renamed before added.

The name of a file before the commit is looked up in two ways. The isolation takes the first rename
to a name; the comparison puts all renames into a map, where the last one stays. They agree where
the renames to one name have one old name.
-/
import LintGate.Proofs.Gate.Verdicts
import LintGate.Proofs.Registry.Missing
import Mathlib.Data.List.Induction

set_option autoImplicit false

namespace LintGate

namespace StagedFiles

variable {compared added : List String} {renames : List Rename} {p : String}

/-! ## One role for each name -/

theorem ofAnswers_renames (compared added : List String) (renames : List Rename) :
    (ofAnswers compared added renames).renames = renames.filter fun r => r.newPath ∉ compared := by
  show renames.filter _ = renames.filter _
  apply List.filter_congr
  intro r _
  simp

theorem mem_renamedTo_ofAnswers : p ∈ (ofAnswers compared added renames).renamedTo ↔
    p ∈ renames.map (·.newPath) ∧ p ∉ compared := by
  rw [renamedTo, ofAnswers_renames, List.mem_map, List.mem_map]
  constructor
  · rintro ⟨r, hr, rfl⟩
    obtain ⟨hr, hnot⟩ := List.mem_filter.mp hr
    exact ⟨⟨r, hr, rfl⟩, of_decide_eq_true hnot⟩
  · rintro ⟨⟨r, hr, rfl⟩, hnot⟩
    exact ⟨r, List.mem_filter.mpr ⟨hr, decide_eq_true hnot⟩, rfl⟩

/-- The added files that are left are those that no other answer has. -/
theorem ofAnswers_added (compared added : List String) (renames : List Rename) :
    (ofAnswers compared added renames).added
      = added.filter fun p => p ∉ compared ∧ p ∉ renames.map (·.newPath) := by
  show added.filter (fun p => !compared.contains p &&
    !(ofAnswers compared added renames).renames.any fun r => r.newPath == p) = _
  apply List.filter_congr
  intro p _
  have hany : ((ofAnswers compared added renames).renames.any fun r => r.newPath == p) = true ↔
      p ∈ (ofAnswers compared added renames).renamedTo := by
    simp [renamedTo]
  rw [mem_renamedTo_ofAnswers] at hany
  rw [Bool.eq_iff_iff, Bool.and_eq_true, Bool.not_eq_true', Bool.not_eq_true', ← Bool.not_eq_true,
    ← Bool.not_eq_true, hany, List.contains_iff_mem, decide_eq_true_iff]
  apply and_congr_right
  intro hnot
  rw [and_iff_left hnot]

theorem mem_added_ofAnswers : p ∈ (ofAnswers compared added renames).added ↔
    p ∈ added ∧ p ∉ compared ∧ p ∉ renames.map (·.newPath) := by
  rw [ofAnswers_added, List.mem_filter, decide_eq_true_iff]

/-- A name has a role if and only if some answer has it. -/
theorem mem_currentPaths_ofAnswers : p ∈ (ofAnswers compared added renames).currentPaths ↔
    p ∈ compared ∨ p ∈ added ∨ p ∈ renames.map (·.newPath) := by
  rw [currentPaths, List.mem_append, List.mem_append, mem_added_ofAnswers, mem_renamedTo_ofAnswers]
  show (p ∈ compared ∨ _) ∨ _ ↔ _
  by_cases hcompared : p ∈ compared
  · simp [hcompared]
  by_cases hrenamed : p ∈ renames.map (·.newPath)
  · simp [hcompared, hrenamed]
  · simp [hcompared, hrenamed]

theorem nodup_currentPaths_ofAnswers (hcompared : compared.Nodup) (hadded : added.Nodup)
    (hrenamed : (renames.map (·.newPath)).Nodup) :
    (ofAnswers compared added renames).currentPaths.Nodup := by
  have hroles := ofAnswers_roles compared added renames
  have hleft : (ofAnswers compared added renames).added.Nodup := by
    rw [ofAnswers_added]
    exact hadded.filter _
  have hkept : (ofAnswers compared added renames).renamedTo.Nodup := by
    rw [renamedTo, ofAnswers_renames]
    exact hrenamed.sublist (List.filter_sublist.map _)
  rw [currentPaths]
  apply List.Nodup.append
  · apply List.Nodup.append hcompared hleft
    intro p hp hadded
    exact (hroles.added p hadded).1 hp
  · exact hkept
  · intro p hp hrenamed
    rcases List.mem_append.mp hp with hp | hp
    · exact hroles.renamed p hrenamed hp
    · exact (hroles.added p hp).2 hrenamed

theorem size_eq_length_currentPaths (files : StagedFiles) : files.size = files.currentPaths.length := by
  rw [size, currentPaths, List.length_append, List.length_append, renamedTo, List.length_map]

/-! ## The name before the commit -/

/-- Old names by new names, put into a map one after the other. -/
def renameMap (renames : List Rename) : String → Option String :=
  renames.foldl (fun m r p => if p = r.newPath then some r.oldPath else m p) fun _ => none

/-- The last rename to a name stays in the map. -/
theorem oldName_eq_renameMap (renames : List Rename) (p : String) :
    Comparison.oldName renames p = (renameMap renames p).getD p := by
  have hmap : renameMap renames p = (renames.reverse.find? fun r => r.newPath == p).map (·.oldPath) := by
    induction renames using List.reverseRecOn with
    | nil => rfl
    | append_singleton renames r ih =>
      rw [renameMap, List.foldl_append, List.reverse_append, List.reverse_singleton,
        List.singleton_append]
      show (if p = r.newPath then some r.oldPath else renameMap renames p) = _
      by_cases hp : p = r.newPath
      · rw [if_pos hp, List.find?_cons_of_pos (by simp [hp])]
        rfl
      · rw [if_neg hp, List.find?_cons_of_neg (by simpa using Ne.symm hp), ih]
  rw [Comparison.oldName, hmap]
  cases renames.reverse.find? fun r => r.newPath == p with
  | none => rfl
  | some r => rfl

/-- The renames to one name have one old name. -/
def OneOldName (renames : List Rename) : Prop :=
  ∀ r ∈ renames, ∀ r' ∈ renames, r.newPath = r'.newPath → r.oldPath = r'.oldPath

theorem oneOldName_of_nodup (h : (renames.map (·.newPath)).Nodup) : OneOldName renames := by
  intro r hr r' hr' hname
  rw [List.inj_on_of_nodup_map h hr hr' hname]

theorem of_find?_newPath {r : Rename} (h : (renames.find? fun r => r.newPath == p) = some r) :
    r ∈ renames ∧ r.newPath = p :=
  ⟨List.mem_of_find?_eq_some h, by simpa using List.find?_some h⟩

/-- The first rename to a name and the last one tell the same old name. -/
theorem oldName_eq_baselineName {files : StagedFiles} (h : OneOldName files.renames) (p : String) :
    Comparison.oldName files.renames p = files.baselineName p := by
  rw [Comparison.oldName, baselineName]
  cases hfirst : files.renames.find? fun r => r.newPath == p with
  | none =>
    have hlast : (files.renames.reverse.find? fun r => r.newPath == p) = none := by
      rw [List.find?_eq_none] at hfirst ⊢
      intro r hr
      exact hfirst r (List.mem_reverse.mp hr)
    rw [hlast]
  | some r =>
    obtain ⟨hr, hname⟩ := of_find?_newPath hfirst
    cases hlast : files.renames.reverse.find? fun r => r.newPath == p with
    | none =>
      have hnot := List.find?_eq_none.mp hlast r (List.mem_reverse.mpr hr)
      exact absurd (beq_iff_eq.mpr hname) hnot
    | some r' =>
      obtain ⟨hr', hname'⟩ := of_find?_newPath hlast
      exact h r' (List.mem_reverse.mp hr') r hr (hname'.trans hname.symm)

end StagedFiles

/-! ## The paths that are linted -/

namespace Snapshot

variable {σ : Type}

/-- Whatever a run over some files lints is a path of one of the two trees. -/
theorem take_lints_lintPaths (vcs : VersionControl σ) (linter : Linter σ) (mode : Option String)
    (files : StagedFiles) (verbose : Bool) (session : Session σ) :
    ∃ es, (take vcs linter mode files verbose session).2.events = session.events ++ es ∧
      ∀ path asked answer, .lint path asked answer ∈ es → path ∈ files.lintPaths := by
  obtain ⟨es, hes, -, hruns⟩ := does_take vcs linter mode files verbose session
  refine ⟨es, hes, ?_⟩
  intro path asked answer he
  have hcall : .lint path asked answer ∈ calls es := mem_calls.mpr ⟨he, rfl⟩
  unfold Runs at hruns
  split at hruns
  · exact (hruns.lints_lintPaths hcall).2
  · rw [hruns.1] at hcall
    cases hcall

end Snapshot

/-! ## Telling the files apart -/

namespace StagedFiles

variable {σ : Type}

theorem comparedKinds_contains (kind : ChangeKind) :
    comparedKinds.contains kind = true ↔ kind = .copied ∨ kind = .modified := by
  cases kind <;> decide

theorem addedKind_contains (kind : ChangeKind) : addedKind.contains kind = true ↔ kind = .added := by
  cases kind <;> decide

/-- **Telling the staged files apart shares their names out.** The version control is asked for the files
that were copied or modified, for the added ones and for the renames, each once and in this order, up to
the first question that it fails to answer; that failure is the answer then. If it answers all three, each
name that an answer has gets exactly one role, modified or copied before renamed before added, no other
name gets one, and the lists keep the order of the answers. The paths of the commit are these names, and
the paths to lint are these and the old names of the renames that are left; no run lints another. The name
before the commit is the one that a map of the renames has, if the renames to one name have one old
name. The commit has as many paths as files, and none of them twice if no answer has a name twice. -/
theorem classify_partitions (vcs : VersionControl σ) (linter : Linter σ) (session : Session σ) :
    (∀ kind, comparedKinds.contains kind = true ↔ kind = .copied ∨ kind = .modified) ∧
    (∀ kind, addedKind.contains kind = true ↔ kind = .added) ∧
    ∃ es, (classify vcs session).2.events = session.events ++ es ∧
      History vcs linter es session.world (classify vcs session).2.world ∧
      Asked es (classify vcs session).1 ∧
      ∀ compared added renames, es = [.stagedPaths comparedKinds (.ok compared),
          .stagedPaths addedKind (.ok added), .stagedRenames (.ok renames)] →
        ∃ files : StagedFiles, (classify vcs session).1 = .ok files ∧
        files.Roles ∧
        files.modifiedOrCopied = compared ∧
        files.renames = renames.filter (fun r => r.newPath ∉ compared) ∧
        files.added = added.filter (fun p => p ∉ compared ∧ p ∉ renames.map (·.newPath)) ∧
        (∀ p, p ∈ files.currentPaths ↔ p ∈ compared ∨ p ∈ added ∨ p ∈ renames.map (·.newPath)) ∧
        (∀ p, p ∈ files.lintPaths ↔
          p ∈ files.currentPaths ∨ ∃ r ∈ renames, r.newPath ∉ compared ∧ r.oldPath = p) ∧
        (∀ (other : Linter σ) (mode : Option String) (verbose : Bool) (session' : Session σ),
          ∃ es', (Snapshot.take vcs other mode files verbose session').2.events
              = session'.events ++ es' ∧
            ∀ path asked answer, .lint path asked answer ∈ es' → path ∈ files.lintPaths) ∧
        (OneOldName renames → ∀ p, Comparison.oldName files.renames p = files.baselineName p ∧
          (renameMap files.renames p).getD p = files.baselineName p) ∧
        files.size = files.currentPaths.length ∧
        (compared.Nodup → added.Nodup → (renames.map (·.newPath)).Nodup →
          files.currentPaths.Nodup) := by
  refine ⟨comparedKinds_contains, addedKind_contains, ?_⟩
  obtain ⟨es, hes, hhistory, hasked⟩ := does_classify_asked vcs linter session
  refine ⟨es, hes, hhistory, hasked, ?_⟩
  rintro compared added renames rfl
  have htold : (classify vcs session).1 = .ok (ofAnswers compared added renames) := by
    generalize (classify vcs session).1 = answer at hasked
    cases hasked
    rfl
  refine ⟨ofAnswers compared added renames, htold, ofAnswers_roles _ _ _, rfl, ofAnswers_renames _ _ _,
    ofAnswers_added _ _ _, fun p => mem_currentPaths_ofAnswers, ?_, ?_, ?_,
    size_eq_length_currentPaths _, nodup_currentPaths_ofAnswers⟩
  · intro p
    rw [lintPaths, List.mem_append, renamedFrom, ofAnswers_renames, List.mem_map]
    simp only [List.mem_filter, decide_eq_true_iff, and_assoc]
  · intro other mode verbose session'
    exact Snapshot.take_lints_lintPaths vcs other mode _ verbose session'
  · intro hone p
    have hleft : OneOldName (ofAnswers compared added renames).renames := by
      rw [ofAnswers_renames]
      intro r hr r' hr'
      exact hone r (List.mem_filter.mp hr).1 r' (List.mem_filter.mp hr').1
    rw [← oldName_eq_renameMap]
    exact ⟨oldName_eq_baselineName hleft p, oldName_eq_baselineName hleft p⟩

/-- A commit whose answers overlap: a modified file is also reported as added and as renamed, and a renamed
one as added. -/
def overlappingPlan : Rehearsal.Plan :=
  { staged := [(.modified, "a.js"), (.added, "a.js"), (.added, "b.js"), (.added, "c.js")]
    renames := [⟨"o.js", "b.js"⟩, ⟨"p.js", "a.js"⟩] }

/-- Each name gets its one role, and the renamed file is known by its old name in both ways. -/
theorem classify_partitions_overlapping :
    ∃ files : StagedFiles,
      (classify Rehearsal.versionControl ⟨{ plan := overlappingPlan }, []⟩).1 = .ok files ∧
      files.modifiedOrCopied = ["a.js"] ∧ files.renames = [⟨"o.js", "b.js"⟩] ∧ files.added = ["c.js"] ∧
      Comparison.oldName files.renames "b.js" = files.baselineName "b.js" ∧
      files.currentPaths.Nodup := by
  obtain ⟨-, -, es, hes, -, -, htold⟩ := classify_partitions Rehearsal.versionControl
    (Rehearsal.linter overlappingPlan) ⟨{ plan := overlappingPlan }, []⟩
  have hanswers : es = [.stagedPaths comparedKinds (.ok ["a.js"]),
      .stagedPaths addedKind (.ok ["a.js", "b.js", "c.js"]),
      .stagedRenames (.ok [⟨"o.js", "b.js"⟩, ⟨"p.js", "a.js"⟩])] := by
    rw [List.nil_append] at hes
    rw [← hes]
    rfl
  obtain ⟨files, hfiles, -, hcompared, hrenames, hadded, -, -, -, hname, -, hnodup⟩ :=
    htold _ _ _ hanswers
  have hone : OneOldName [⟨"o.js", "b.js"⟩, ⟨"p.js", "a.js"⟩] := oneOldName_of_nodup (by decide)
  refine ⟨files, hfiles, hcompared, ?_, ?_, (hname hone "b.js").1,
    hnodup (by decide) (by decide) (by decide)⟩
  · rw [hrenames]
    decide
  · rw [hadded]
    decide

end StagedFiles

end LintGate
