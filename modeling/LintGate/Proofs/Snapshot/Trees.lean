/-
What a linter says of each tree.

The working tree is not the same on the two sides, and it is the version control that
changes it. If the linter's answers depend on the tree, the path and the mode only and the
linter leaves the tree alone (`Linter.Follows`), each list of results holds under every path
it was linted for what the linter says of that path in the tree of its side, and nothing
else (`TakenFrom`): the committed side in the tree behind the first save, the baseline in
the one behind the second. The failures are the crashes in the order of the calls.

`take_lints_sides` puts this together with the parts of a run.
-/
import LintGate.Proofs.Snapshot.Sides
import LintGate.Rehearsal

set_option autoImplicit false

namespace LintGate

/-! ## Linters that depend on the tree -/

/-- What a linter says of a path in a tree. -/
abbrev Answers (τ : Type) : Type :=
  τ → String → Option String → Except LintError (Option LintResult)

/-- The linter's answers depend on the tree, the path and the mode, and linting leaves the tree alone. -/
structure Linter.Follows {σ τ : Type} (linter : Linter σ) (tree : σ → τ) (answer : Answers τ) :
    Prop where
  answers : ∀ path mode w, (linter.lint path mode w).1 = answer (tree w) path mode
  keeps : ∀ path mode w, tree (linter.lint path mode w).2 = tree w

namespace Snapshot

variable {σ τ : Type} {vcs : VersionControl σ} {linter : Linter σ} {mode : Option String}
  {files : StagedFiles} {tree : σ → τ} {answer : Answers τ}

/-! ## What is taken from a tree -/

/-- The results hold what is said of some paths in a tree, and nothing of others. -/
def Hold (answer : Answers τ) (t : τ) (mode : Option String) (paths : List String) (m : Results) :
    Prop :=
  ∀ path, m.get? path = if path ∈ paths then (answer t path mode).toOption.join else none

/-- The crashes on some paths in a tree, in order. Each path comes with its name in the commit. -/
def crashed (answer : Answers τ) (t : τ) (mode : Option String) (phase : Phase)
    (pairs : List (String × String)) : List LintFailure :=
  pairs.filterMap fun (path, name) => crash? phase name (.lint path mode (answer t path mode))

/-- The results of both sides, each taken from its tree. -/
structure TakenFrom (answer : Answers τ) (mode : Option String) (files : StagedFiles) (t t' : τ)
    (s : Snapshots) : Prop where
  current : Hold answer t mode files.modifiedOrCopied s.current
  added : Hold answer t mode files.added s.added
  currentRenamed : Hold answer t mode files.renamedTo s.currentRenamed
  baseline : Hold answer t' mode files.modifiedOrCopied s.baseline
  baselineRenamed : Hold answer t' mode files.renamedFrom s.baselineRenamed
  failures : s.failures = crashed answer t mode .lintCurrent (same files.currentPaths)
    ++ crashed answer t' mode .lintBaseline
      (same files.modifiedOrCopied ++ files.renames.map fun r => (r.oldPath, r.newPath))

/-! ## Linting in one tree -/

/-- The calls on some paths in a tree. -/
def said (answer : Answers τ) (t : τ) (mode : Option String) (paths : List String) : List Event :=
  paths.map fun path => .lint path mode (answer t path mode)

/-- A linter that depends on the tree says of every path what is to be said in the tree the linting
began in. -/
theorem LintedAll.said_of_follows (hlinter : linter.Follows tree answer) {paths : List String}
    {es : List Event} {w w' : σ} (h : LintedAll mode paths es) (hist : History vcs linter es w w') :
    es = said answer (tree w) mode paths ∧ tree w' = tree w := by
  induction h generalizing w with
  | nil =>
    have hw : w' = w := hist
    exact ⟨rfl, congrArg tree hw⟩
  | @cons path e paths es hcall _ ih =>
    obtain ⟨a, rfl, -⟩ := hcall
    obtain ⟨v, hlint, hrest⟩ := hist
    have hlint : linter.lint path mode w = (a, v) := hlint
    -- the call gives its answer in the tree it was made in, and leaves the tree to the next one
    have ha : a = answer (tree w) path mode := by
      rw [← hlinter.answers path mode w, hlint]
    have hv : tree v = tree w := by
      rw [← hlinter.keeps path mode w, hlint]
    obtain ⟨hes, hw'⟩ := ih hrest
    refine ⟨?_, hw'.trans hv⟩
    rw [said, List.map_cons, ← ha, hes, hv]
    rfl

theorem get?_gather_lint (m : Results) (path other : String)
    (a : Except LintError (Option LintResult)) :
    (gather m (.lint path mode a)).get? other =
      if other = path then a.toOption.join.or (m.get? other) else m.get? other := by
  match a with
  | .ok (some result) => exact m.get?_insert path other result
  | .ok none => exact (ite_self _).symm
  | .error _ => exact (ite_self _).symm

/-- Collecting puts the answers of a tree on top of what is there. -/
theorem get?_foldl_gather_said (t : τ) (paths : List String) (m : Results) (other : String) :
    ((said answer t mode paths).foldl gather m).get? other =
      if other ∈ paths then (answer t other mode).toOption.join.or (m.get? other)
      else m.get? other := by
  induction paths generalizing m with
  | nil => exact (if_neg List.not_mem_nil).symm
  | cons path paths ih =>
    rw [said, List.map_cons, List.foldl_cons, ← said, ih, get?_gather_lint]
    by_cases hpath : other = path
    · -- linted again, the path gets the same answer once more
      subst hpath
      rw [if_pos rfl, if_pos List.mem_cons_self, ← Option.or_assoc, Option.or_self, ite_self]
    · simp only [List.mem_cons, hpath, if_false, false_or]

theorem hold_gathered_said (t : τ) (paths : List String) :
    Hold answer t mode paths (gathered (said answer t mode paths)) := by
  intro path
  rw [gathered, get?_foldl_gather_said]
  exact ite_congr rfl (fun _ => Option.or_none) fun _ => rfl

/-- The crashes of the calls are those of the tree. -/
theorem crashes_said (t : τ) (phase : Phase) (pairs : List (String × String)) :
    crashes phase (pairs.map (·.2)) (said answer t mode (pairs.map (·.1)))
      = crashed answer t mode phase pairs := by
  induction pairs with
  | nil => rfl
  | cons pair pairs ih =>
    simp only [crashes, crashed, said, List.map_cons, List.zip_cons_cons, List.filterMap_cons] at ih ⊢
    rw [ih]

theorem crashes_said_same (t : τ) (phase : Phase) (paths : List String) :
    crashes phase paths (said answer t mode paths) = crashed answer t mode phase (same paths) := by
  rw [← crashes_said, same_map_fst, same_map_snd]

theorem crashes_said_renames (t : τ) (phase : Phase) (files : StagedFiles) :
    crashes phase files.renamedTo (said answer t mode files.renamedFrom)
      = crashed answer t mode phase (files.renames.map fun r => (r.oldPath, r.newPath)) := by
  rw [← crashes_said, List.map_map, List.map_map]
  rfl

theorem crashed_append (t : τ) (phase : Phase) (pairs pairs' : List (String × String)) :
    crashed answer t mode phase (pairs ++ pairs')
      = crashed answer t mode phase pairs ++ crashed answer t mode phase pairs' :=
  List.filterMap_append

theorem same_append (paths paths' : List String) : same (paths ++ paths') = same paths ++ same paths' :=
  List.map_append

/-- What both sides yield is taken from the trees in which their linting began. -/
theorem Parts.Yields.takenFrom {p : Parts} {s : Snapshots} {w₁ w₁' w₂ w₂' : σ}
    (h : p.Yields mode files s) (hlinter : linter.Follows tree answer)
    (hcommitted : History vcs linter p.committed w₁ w₁')
    (hbaseline : History vcs linter p.baseline w₂ w₂') :
    TakenFrom answer mode files (tree w₁) (tree w₂) s := by
  obtain ⟨s', ⟨m, a, r, hes, hm, ha, hr, rfl⟩, m', r', hes', hm', hr', rfl⟩ := h
  rw [hes] at hcommitted
  rw [hes'] at hbaseline
  -- the lists of a side follow one another in the one tree
  obtain ⟨v₂, hfront, hist₃⟩ := hcommitted.split
  obtain ⟨v₁, hist₁, hist₂⟩ := hfront.split
  obtain ⟨rfl, ht₁⟩ := hm.said_of_follows hlinter hist₁
  obtain ⟨rfl, ht₂⟩ := ha.said_of_follows hlinter hist₂
  obtain ⟨rfl, -⟩ := hr.said_of_follows hlinter hist₃
  obtain ⟨v₃, hist₄, hist₅⟩ := hbaseline.split
  obtain ⟨rfl, ht₃⟩ := hm'.said_of_follows hlinter hist₄
  obtain ⟨rfl, -⟩ := hr'.said_of_follows hlinter hist₅
  rw [ht₁] at ht₂
  rw [ht₁, ht₂, ht₃]
  refine ⟨hold_gathered_said _ _, hold_gathered_said _ _, hold_gathered_said _ _,
    hold_gathered_said _ _, hold_gathered_said _ _, ?_⟩
  simp only [crashes_said_same, crashes_said_renames, crashed_append, same_append,
    StagedFiles.currentPaths, List.append_assoc]

/-! ## The statement for a session -/

variable (vcs linter mode) in
/-- **Each side is linted in its own tree, completely and in order.** Over commits and with a file
that has a linter, the calls of a run fall into parts: what is linted before the staged changes are
set aside, behind the unstaged ones, is the committed side, and what is linted behind the staged ones
and before anything is brought back is the baseline. If the staged changes were set aside and no call
ended the linting, both sides were linted through; the results are then answered unless a call of
the way back failed, and of a linter that depends on the tree they hold what it says in the tree of
each side. -/
theorem take_lints_sides (files : StagedFiles) (verbose : Bool) (s : Session σ)
    (hhandled : (files.currentPaths.any fun path => linter.handles path mode) = true)
    (hcommits : (vcs.hasCommits s.world).1 = .ok true) :
    ∃ (es : List Event) (p : Parts),
      (take vcs linter mode files verbose s).2.events = s.events ++ es ∧ calls es = p.all ∧
      p.Apart mode files ∧
      ((∃ e ∈ es, e.setsStagedAside = true) → (∀ e ∈ es, e.isFatal = false) →
        LintedAll mode files.currentPaths p.committed ∧
        LintedAll mode (baselinePaths files) p.baseline ∧
        ∃ (snap : Snapshots) (w₁ w₂ : σ),
          ((take vcs linter mode files verbose s).1 = .ok snap ∨
            (∃ d, (take vcs linter mode files verbose s).1 = .error (.desync d)) ∧
              ∃ e ∈ es, Isolation.FailsRestoring e) ∧
          History vcs linter p.opening s.world w₁ ∧
          History vcs linter (p.opening ++ p.committed ++ p.between) s.world w₂ ∧
          ∀ (τ : Type) (tree : σ → τ) (answer : Answers τ), linter.Follows tree answer →
            TakenFrom answer mode files (tree w₁) (tree w₂) snap) := by
  obtain ⟨es, hes, hist, hruns⟩ := does_take vcs linter mode files verbose s
  rw [Runs, if_pos hhandled] at hruns
  have hist := hist.calls
  have hasked : ∀ answer rest, calls es = .hasCommits answer :: rest → answer = .ok true := by
    intro answer rest heq
    rw [heq] at hist
    obtain ⟨v, hasked, -⟩ := hist
    have hasked : vcs.hasCommits s.world = (answer, v) := hasked
    rw [← hcommits, hasked]
  obtain ⟨p, hp, hapart, hyields⟩ := hruns.parts hasked
  refine ⟨es, p, hes, hp, hapart, ?_⟩
  rintro ⟨e, he, haside⟩ hconfined
  have hcall : e ∈ calls es := mem_calls.mpr ⟨he, Event.not_isMessage_of_setsStagedAside haside⟩
  obtain ⟨snap, hsnap, hanswer⟩ := hyields ⟨e, hcall, haside⟩
    fun e he => hconfined e (mem_calls.mp he).1
  rw [hp, Parts.all] at hist
  obtain ⟨v', hlinted, -⟩ := hist.split
  obtain ⟨w₂, hist₂, hbaseline⟩ := hlinted.split
  obtain ⟨v, hfront, -⟩ := hist₂.split
  obtain ⟨w₁, hist₁, hcommitted⟩ := hfront.split
  refine ⟨?_, ?_, snap, w₁, w₂, ?_, hist₁, hist₂, fun τ tree answer hlinter =>
    hsnap.takenFrom hlinter hcommitted hbaseline⟩
  · obtain ⟨s', hs', -⟩ := hsnap
    exact hs'.linted
  · obtain ⟨s', -, hs'⟩ := hsnap
    exact hs'.linted
  · rcases hanswer with hok | ⟨hdesync, e, he, hfails⟩
    · exact .inl hok
    · exact .inr ⟨hdesync, e, (mem_calls.mp he).1, hfails⟩

/-! ## A run with an added, a renamed and a modified file -/

/-- What the scripted linter says of a path in one of the trees. -/
def rehearsed : Answers (Rehearsal.Plan × Rehearsal.Tree) := fun (plan, tree) path _ =>
  match plan.reply? tree path with
  | some (.answer result) => .ok (some result)
  | some (.crash message) => .error (.crash "fake" path message)
  | some (.fatal message) => .error (.config message)
  | none => .ok none

theorem lint_rehearsed (plan : Rehearsal.Plan) (path : String) (mode : Option String)
    (w : Rehearsal.Stage) :
    (Rehearsal.linter plan).lint path mode w = (rehearsed (w.plan, w.tree) path mode,
      { w with linted := w.linted ++ [(w.tree, path, mode)] }) := by
  change (match w.plan.reply? w.tree path with
    | some (.answer result) => pure (.ok (some result))
    | some (.crash message) => pure (.error (.crash "fake" path message))
    | some (.fatal message) => pure (.error (.config message))
    | none => pure (.ok none) : StateM Rehearsal.Stage (Except LintError (Option LintResult))) _ = _
  rw [rehearsed]
  rcases w.plan.reply? w.tree path with _ | (_ | _ | _) <;> rfl

/-- The scripted linter's answers depend on the plan and the tree. -/
theorem follows_rehearsed (plan : Rehearsal.Plan) :
    (Rehearsal.linter plan).Follows (fun s => (s.plan, s.tree)) rehearsed where
  answers path mode w := by rw [lint_rehearsed]
  keeps path mode w := by rw [lint_rehearsed]

/-- The linter finds something in `a.js` on both sides, and crashes on the old name of `r.js`. -/
def sidesPlan : Rehearsal.Plan :=
  { replies :=
      [(.staged, [("a.js", .answer ⟨"new\n", true⟩), ("n.js", .answer {}), ("r.js", .answer {})]),
       (.baseline, [("a.js", .answer ⟨"old\n", true⟩), ("o.js", .crash "boom")])] }

def sidesFiles : StagedFiles :=
  { modifiedOrCopied := ["a.js"], added := ["n.js"], renames := [⟨"o.js", "r.js"⟩] }

/-- A run by that plan over these files. -/
def sidesRun : Except RunError Snapshots × Session Rehearsal.Stage :=
  take Rehearsal.versionControl (Rehearsal.linter sidesPlan) none sidesFiles false
    { world := { plan := sidesPlan } }

/-- Both sides of that run are linted through. Of `r.js` there is no result before the commit, and the
failure is under its new name. -/
theorem take_lints_sides_rehearsed :
    (sidesFiles.currentPaths.any fun path => (Rehearsal.linter sidesPlan).handles path none) = true ∧
    (Rehearsal.versionControl.hasCommits { plan := sidesPlan }).1 = .ok true ∧
    ∃ p : Parts, calls sidesRun.2.events = p.all ∧ p.Apart none sidesFiles ∧
      LintedAll none ["a.js", "n.js", "r.js"] p.committed ∧
      LintedAll none ["a.js", "o.js"] p.baseline ∧
      ∃ snap t t', sidesRun.1 = .ok snap ∧
        TakenFrom rehearsed none sidesFiles t t' snap ∧
        snap.failures = [⟨"r.js", .lintBaseline, .crash "fake" "o.js" "boom"⟩] := by
  have hhandled : (sidesFiles.currentPaths.any fun path =>
      (Rehearsal.linter sidesPlan).handles path none) = true := by decide +kernel
  have hcommits : (Rehearsal.versionControl.hasCommits { plan := sidesPlan }).1 = .ok true := by
    decide +kernel
  obtain ⟨es, p, hes, hp, hapart, hboth⟩ := take_lints_sides Rehearsal.versionControl
    (Rehearsal.linter sidesPlan) none sidesFiles false { world := { plan := sidesPlan } } hhandled
    hcommits
  obtain rfl : sidesRun.2.events = es := hes
  have haside : sidesRun.2.events.any Event.setsStagedAside = true := by decide +kernel
  have hconfined : sidesRun.2.events.all (fun e => !e.isFatal) = true := by decide +kernel
  obtain ⟨hcommitted, hbaseline, snap, w₁, w₂, hanswer, -, -, htaken⟩ :=
    hboth (List.any_eq_true.mp haside) fun e he => by
      simpa using List.all_eq_true.mp hconfined e he
  have hfailures : sidesRun.1.toOption.map (·.failures)
      = some [⟨"r.js", .lintBaseline, .crash "fake" "o.js" "boom"⟩] := by decide +kernel
  have hsnap : sidesRun.1 = .ok snap := by
    refine hanswer.resolve_right ?_
    rintro ⟨⟨d, hd⟩, -⟩
    have hd : sidesRun.1 = .error (.desync d) := hd
    rw [hd] at hfailures
    cases hfailures
  rw [hsnap] at hfailures
  exact ⟨hhandled, hcommits, p, hp, hapart, hcommitted, hbaseline, snap, _, _, hsnap,
    htaken _ _ _ (follows_rehearsed sidesPlan), Option.some.inj hfailures⟩

end Snapshot

end LintGate
