/-
What setting changes aside tells of the stash.

The tool that sets changes aside does not say whether it did. It succeeds when there was
nothing to set aside, and it may fail behind the point where the entry was made. So the
stash is looked at before and after, and an entry that is new on top is taken for the one
that was made. Both looks may fail.

With the first one nothing has happened yet, and the tool is not called. The second one is
the only witness of the entry: if it fails, the answer names no frame, although there may be
one, and the changes that it holds are gone from the working tree. In every other case the
answer is exact (`Repository.saveFrame_tells`): the entry that was made, and no other, is
named, whether the tool reported success or failure.
-/
import LintGate.Repository

set_option autoImplicit false

namespace LintGate

/-- The frame that comes with the answer to setting changes aside, also with a failure. -/
def Frame.carried : Except SaveError (Option Frame) → Option Frame
  | .ok frame => frame
  | .error e => e.held

namespace Repository

variable {σ : Type} (r : Repository σ) (stash : σ → List String)

/-- The stash, as ids with the newest one first, is what the looks show: one that does not fail tells the
newest entry. -/
structure ShowsStash : Prop where
  newest : ∀ s answer, (r.stashTop s).1 = .ok answer → answer = (stash s).head?

/-- The call of the tool that sets changes aside. -/
def push (label : String) (keepIndex : Bool) : StateM σ (Except VcsError String) :=
  r.git "create holding frame" (saveArgs label keepIndex)

/-- The answer with which a frame comes: a success of the tool, or its failure. -/
def told (frame : Option Frame) : Except VcsError String → Except SaveError (Option Frame)
  | .ok _ => .ok frame
  | .error e => .error ⟨e, frame⟩

/-- The answer without the second look, which failed. The tool's own failure goes before that. -/
def untold (e : VcsError) : Except VcsError String → Except SaveError (Option Frame)
  | .ok _ => .error ⟨e, none⟩
  | .error e' => .error ⟨e', none⟩

variable {r stash} {label : String} {keepIndex : Bool} {s : σ}

/-- With the first look the attempt ends if it fails. -/
theorem saveFrame_of_unread {e : VcsError} (h : (r.stashTop s).1 = .error e) :
    r.saveFrame label keepIndex s = (.error ⟨e, none⟩, (r.stashTop s).2) := by
  rcases hlook : r.stashTop s with ⟨answer, looked⟩
  rw [hlook] at h
  cases h
  unfold saveFrame
  simp only [bind, StateT.bind, hlook]
  rfl

/-- Behind a first look that succeeds come the tool and the second look. -/
theorem saveFrame_of_read {newest : Option String} (h : (r.stashTop s).1 = .ok newest) :
    r.saveFrame label keepIndex s =
      (saved label newest (r.push label keepIndex (r.stashTop s).2).1
          (r.stashTop (r.push label keepIndex (r.stashTop s).2).2).1,
        (r.stashTop (r.push label keepIndex (r.stashTop s).2).2).2) := by
  rcases hlook : r.stashTop s with ⟨answer, looked⟩
  rw [hlook] at h
  cases h
  unfold saveFrame
  simp only [bind, StateT.bind, hlook]
  rfl

/-- An entry is taken for a new one if it came on top of the stash. -/
theorem newFrame_of_recorded {before : List String} {recorded : Option String}
    (hfresh : ∀ id, recorded = some id → id ∉ before) :
    newFrame label before.head? (recorded.toList ++ before).head?
      = recorded.map fun id => ⟨id, label⟩ := by
  cases recorded with
  | none =>
    show newFrame label before.head? before.head? = none
    cases before.head? with
    | none => rfl
    | some id => simp [newFrame]
  | some id =>
    -- the entry that was on top before has another id
    have hother : (before.head? == some id) = false := by
      apply beq_eq_false_iff_ne.mpr
      intro htop
      exact hfresh id rfl (List.mem_of_mem_head? htop)
    show newFrame label before.head? (some id) = some ⟨id, label⟩
    simp only [newFrame, hother, Bool.false_eq_true, if_false]

/-- **What setting changes aside tells of the stash**, for every stash, every effect of the tool on it and
every outcome of the two looks. If the first look fails, the tool is not called. Else the tool made an
entry with a new id, or none. If the second look succeeds, the answer is exact: it names the entry that
was made, under the label, and nothing if none was made, both when the tool succeeds and when it fails.
If the second look fails, the answer is a failure that names no frame. So an entry is kept back exactly
if one was made and the second look fails. -/
theorem saveFrame_tells (hstash : r.ShowsStash stash) (label : String) (keepIndex : Bool) (s : σ) :
    (∀ e, (r.stashTop s).1 = .error e →
      r.saveFrame label keepIndex s = (.error ⟨e, none⟩, (r.stashTop s).2)) ∧
    ∀ before pushed after, (r.stashTop s).1 = .ok before →
      r.push label keepIndex (r.stashTop s).2 = (pushed, after) →
      ∀ recorded : Option String, stash after = recorded.toList ++ stash s →
        (∀ id, recorded = some id → id ∉ stash s) →
        (∀ answer, (r.stashTop after).1 = .ok answer →
          (r.saveFrame label keepIndex s).1
            = told (recorded.map fun id => ⟨id, label⟩) pushed) ∧
        (∀ e, (r.stashTop after).1 = .error e →
          (r.saveFrame label keepIndex s).1 = untold e pushed) ∧
        (Frame.carried (r.saveFrame label keepIndex s).1 = recorded.map (fun id => ⟨id, label⟩) ↔
          recorded = none ∨ ∃ answer, (r.stashTop after).1 = .ok answer) := by
  refine ⟨fun e he => saveFrame_of_unread he, ?_⟩
  intro before pushed after hbefore hpushed recorded hrecorded hfresh
  have hsaved : (r.saveFrame label keepIndex s).1
      = saved label before pushed (r.stashTop after).1 := by
    rw [saveFrame_of_read hbefore, hpushed]
  have hread : ∀ answer, (r.stashTop after).1 = .ok answer →
      newFrame label before answer = recorded.map fun id => ⟨id, label⟩ := by
    intro answer hanswer
    rw [hstash.newest s before hbefore, hstash.newest after answer hanswer, hrecorded]
    exact newFrame_of_recorded hfresh
  have hexact : ∀ answer, (r.stashTop after).1 = .ok answer →
      (r.saveFrame label keepIndex s).1
        = told (recorded.map fun id => ⟨id, label⟩) pushed := by
    intro answer hanswer
    rw [hsaved, hanswer, ← hread answer hanswer]
    cases pushed <;> rfl
  have hblind : ∀ e, (r.stashTop after).1 = .error e →
      (r.saveFrame label keepIndex s).1 = untold e pushed := by
    intro e he
    rw [hsaved, he]
    cases pushed <;> rfl
  refine ⟨hexact, hblind, ?_⟩
  cases hlook : (r.stashTop after).1 with
  | ok answer =>
    rw [hexact answer hlook]
    cases pushed <;> simp [told, Frame.carried]
  | error e =>
    rw [hblind e hlook]
    cases pushed <;> cases recorded <;> simp [untold, Frame.carried]

/-! ## A repository that follows a script -/

/-- A stash, and which of the coming looks at it fail. -/
structure StashStage where
  entries : List String := []
  failures : List (Option VcsError) := []

/-- A repository whose tool makes an entry, or none, and ends with a status. -/
def scripted (made : Option String) (status : ToolStatus) : Repository StashStage where
  root := "/work/"
  directory := "/work/.git/"
  place := ⟨fun _ => none, fun _ s => s⟩
  stagedChanges := return .ok []
  hasCommits := return .ok true
  stashTop := fun s =>
    match s.failures with
    | some e :: rest => (.error e, { s with failures := rest })
    | _ => (.ok s.entries.head?, { s with failures := s.failures.drop 1 })
  run := fun _ s => (.ok ⟨status, [], []⟩, { s with entries := made.toList ++ s.entries })

theorem scripted_showsStash (made : Option String) (status : ToolStatus) :
    (scripted made status).ShowsStash StashStage.entries := by
  constructor
  rintro ⟨entries, failures⟩ answer h
  unfold scripted at h
  rcases failures with _ | ⟨_ | e, rest⟩
  · cases h
    rfl
  · cases h
    rfl
  · cases h

/-- An entry of somebody else is on top, and the tool makes one and fails: it comes with the failure. -/
theorem saveFrame_tells_failed :
    (scripted (some "new") (.exited 1)).ShowsStash StashStage.entries ∧
      "new" ∉ ["old"] ∧
      Frame.carried ((scripted (some "new") (.exited 1)).saveFrame unstagedLabel true ⟨["old"], []⟩).1
        = some ⟨"new", unstagedLabel⟩ := by
  have hshows := scripted_showsStash (some "new") (.exited 1)
  obtain ⟨-, hread⟩ := saveFrame_tells hshows unstagedLabel true ⟨["old"], []⟩
  obtain ⟨-, -, hcarried⟩ := hread (some "old") _ _ rfl rfl (some "new") rfl (by decide)
  exact ⟨hshows, by decide, hcarried.mpr (.inr ⟨_, rfl⟩)⟩

/-- A stash that cannot be read the second time. -/
def unreadStage : StashStage := ⟨[], [none, some ⟨"read stash", "corrupted loose reference file"⟩]⟩

/-- **An entry that is kept back.** The tool succeeds and makes an entry, and the look behind it fails:
the answer is the failure of the look, and names no frame. -/
theorem unread_entry_hidden :
    (scripted (some "new") (.exited 0)).ShowsStash StashStage.entries ∧
      ((scripted (some "new") (.exited 0)).saveFrame unstagedLabel true unreadStage).2.entries
        = ["new"] ∧
      ((scripted (some "new") (.exited 0)).saveFrame unstagedLabel true unreadStage).1
        = .error ⟨⟨"read stash", "corrupted loose reference file"⟩, none⟩ :=
  ⟨scripted_showsStash _ _, rfl, rfl⟩

end Repository

end LintGate
