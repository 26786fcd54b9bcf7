/-
When the lock is had, and what is left when it is not.

An attempt on the lock goes through up to eight stages, and takes a file away before it
makes its own, so that the failures behind that point would leave less than there was.
With nobody acting in between there are none: past the removal the spot is free, and the
two stages that follow succeed. What can fail stands before it, and only looks.

The stages are run from the end. Each lemma of the first part says where an attempt ends
that has come to a stage, given what stands at the spot there; the six ways of a whole
attempt are put together in `Acquired`. Which bytes name a process is read off
`NamesProcess` and not off the reader.
-/
import LintGate.Proofs.Lock.Exclusion
import LintGate.Proofs.History

set_option autoImplicit false

namespace LintGate.Lock

/-! ## From a stage to the end -/

section Stages

variable {σ : Type} (vcs : VersionControl σ) (alive : Nat → Bool) (self : Nat) (spot : Spot σ)

/-- Steps that lead from a stage to a last one, with their calls and what stands at the spot then. -/
def Ends (n : Nat) (stage : Stage) (s : Session σ) (last : Stage) (after : Option Entry)
    (cs : List Event) : Prop :=
  ∃ s' es, advanceBy vcs alive self spot n stage s = (last, s') ∧ s'.events = s.events ++ es ∧
    calls es = cs ∧ spot.Shows s'.world after

variable {vcs alive self spot} {n : Nat} {stage next last : Stage} {s s₁ : Session σ}
  {found after : Option Entry} {cs : List Event}

/-- One step, and then the others. -/
theorem Ends.step {es : List Event} (hstep : advance vcs alive self spot stage s = (next, s₁))
    (hes : s₁.events = s.events ++ es) (h : Ends vcs alive self spot n next s₁ last after cs) :
    Ends vcs alive self spot (n + 1) stage s last after (calls es ++ cs) := by
  obtain ⟨s', es', hends, hes', hcs, hshows⟩ := h
  refine ⟨s', es ++ es', ?_, ?_, ?_, hshows⟩
  · change advanceBy vcs alive self spot n (advance vcs alive self spot stage s).1
      (advance vcs alive self spot stage s).2 = _
    rw [hstep]
    exact hends
  · rw [hes', hes, List.append_assoc]
  · rw [calls_append, hcs]

/-- A step that makes no call and says nothing. -/
theorem Ends.quiet {w : σ} (hstep : advance vcs alive self spot stage s = (next, { s with world := w }))
    (h : Ends vcs alive self spot n next { s with world := w } last after cs) :
    Ends vcs alive self spot (n + 1) stage s last after cs :=
  Ends.step hstep (List.append_nil _).symm h

/-- A step that says something and makes no call. -/
theorem Ends.said {w : σ} {message : Console.Message}
    (hstep : advance vcs alive self spot stage s = (next, ⟨w, s.events ++ [.say message]⟩))
    (h : Ends vcs alive self spot n next ⟨w, s.events ++ [.say message]⟩ last after cs) :
    Ends vcs alive self spot (n + 1) stage s last after cs :=
  Ends.step hstep rfl h

/-- An attempt that has ended goes no further. -/
theorem ends_last (n : Nat) (hlast : last = .taken ∨ ∃ e, last = .refused e)
    (h : spot.Shows s.world found) : Ends vcs alive self spot n last s last found [] := by
  induction n with
  | zero => exact ⟨s, [], rfl, (List.append_nil _).symm, rfl, h⟩
  | succ n ih =>
    refine Ends.quiet (w := s.world) ?_ ih
    rcases hlast with rfl | ⟨e, rfl⟩
    · rfl
    · rfl

theorem ends_tell (n : Nat) {holder : Option Nat} (h : spot.Shows s.world found)
    (hnamed : named? found = holder) :
    Ends vcs alive self spot (n + 1) .tell s (.refused (heldBy spot.path holder)) found [] := by
  refine Ends.quiet (w := s.world) ?_ (ends_last n (.inr ⟨_, rfl⟩) h)
  simp only [advance, Act.quietly, bind, StateT.bind, readHolder_eq h, hnamed]
  rfl

/-- A file that was just made is signed. -/
theorem ends_sign (hspot : spot.place.Lawful) (n : Nat) {content : Bytes} {executable : Bool}
    (h : spot.Shows s.world (some (.file content executable))) :
    Ends vcs alive self spot (n + 1) .sign s .taken (some (.file (claim self) executable)) [] := by
  obtain ⟨w, hsign, hshows⟩ := sign_file hspot self h
  refine Ends.quiet (w := w) ?_ (ends_last n (.inl rfl) hshows)
  simp only [advance, Act.quietly, bind, StateT.bind, hsign]
  rfl

/-- At a spot that is free, the lock is made and signed, whether it is the first attempt to make it
or the second. -/
theorem ends_create (hspot : spot.place.Lawful) (n : Nat)
    (hstage : stage = .create ∨ stage = .recreate) (h : spot.Shows s.world none) :
    Ends vcs alive self spot (n + 2) stage s .taken (some (.file (claim self) false)) [] := by
  obtain ⟨w, hcreate, hshows⟩ := h.create_free hspot
  have hsign : Ends vcs alive self spot (n + 1) .sign { s with world := w } .taken
      (some (.file (claim self) false)) [] := ends_sign hspot n hshows
  refine Ends.quiet ?_ hsign
  rcases hstage with rfl | rfl <;>
    simp only [advance, Act.quietly, bind, StateT.bind, hcreate] <;> rfl

/-- The file of a run that is gone is removed, and nothing stands in the way of the own one. -/
theorem ends_removeStale (hspot : spot.place.Lawful) (n : Nat) {content : Bytes} {executable : Bool}
    (pid : Nat) (h : spot.Shows s.world (some (.file content executable))) :
    Ends vcs alive self spot (n + 3) (.removeStale pid) s .taken (some (.file (claim self) false))
      [] := by
  obtain ⟨w, hclear, hshows⟩ := h.clear hspot (by rintro _ ⟨⟩)
  have hadvance : advance vcs alive self spot (.removeStale pid) s = (.recreate, ⟨w, s.events ++
      [.say (.line .warning (s!"removing stale lock left by pid {pid} (" ++ spot.path ++ ")"))]⟩) := by
    simp only [advance, Act.line, Act.say, Act.quietly, bind, StateT.bind, hclear]
    rfl
  exact Ends.said hadvance (ends_create hspot n (.inr rfl) hshows)

end Stages

/-! ## The ways of an attempt -/

/-- The labels that a run asks about. -/
def ownLabels : List String := [unstagedLabel, stagedLabel]

/-- What an attempt at the lock comes to: what stands at the spot, the calls, the answer, and what
stands there afterwards. The frames are those that asking would tell. -/
inductive Acquired (alive : Nat → Bool) (self : Nat) (path : String)
    (frames : Except VcsError (List Frame)) :
    Option Entry → List Event → Except RunError Unit → Option Entry → Prop where
  | free : Acquired alive self path frames none [] (.ok ()) (some (.file (claim self) false))
  | unreadable {entry : Entry} (h : named? (some entry) = none) :
      Acquired alive self path frames (some entry) [] (.error (heldBy path none)) (some entry)
  | running {entry : Entry} {pid : Nat} (h : named? (some entry) = some pid)
      (hrunning : isRunning alive pid = true) :
      Acquired alive self path frames (some entry) [] (.error (heldBy path (some pid))) (some entry)
  | unlisted {entry : Entry} {pid : Nat} {e : VcsError} (h : named? (some entry) = some pid)
      (hgone : isRunning alive pid = false) (hframes : frames = .error e) :
      Acquired alive self path frames (some entry) [.heldFrames ownLabels frames]
        (.error (unlisted e)) (some entry)
  | stranded {entry : Entry} {pid : Nat} {frame : Frame} {rest : List Frame}
      (h : named? (some entry) = some pid) (hgone : isRunning alive pid = false)
      (hframes : frames = .ok (frame :: rest)) :
      Acquired alive self path frames (some entry) [.heldFrames ownLabels frames]
        (.error (stranded path pid (frame :: rest))) (some entry)
  | takenOver {entry : Entry} {pid : Nat} (h : named? (some entry) = some pid)
      (hgone : isRunning alive pid = false) (hframes : frames = .ok []) :
      Acquired alive self path frames (some entry) [.heldFrames ownLabels frames] (.ok ())
        (some (.file (claim self) false))

section Attempts

variable {σ : Type} {vcs : VersionControl σ} {alive : Nat → Bool} {self : Nat} {spot : Spot σ}
  {s : Session σ} {entry : Entry} {found : Option Entry} {pid : Nat}

/-- An entry that names a process is a file. -/
theorem exists_file_of_named (h : named? (some entry) = some pid) :
    ∃ content executable, entry = .file content executable ∧ holder? content = some pid := by
  cases entry with
  | file content executable => exact ⟨content, executable, rfl, h⟩
  | folder entries => cases h

/-- What a refusal or a success at the end of an attempt is as an answer. -/
def answerOf : Stage → Except RunError Unit
  | .refused e => .error e
  | _ => .ok ()

/-- The stage that comes after the question about the frames. -/
def Stage.afterAsked (path : String) (pid : Nat) : Except VcsError (List Frame) → Stage
  | .error e => .refused (unlisted e)
  | .ok [] => .removeStale pid
  | .ok (frame :: rest) => .refused (Lock.stranded path pid (frame :: rest))

theorem advance_askFrames (vcs : VersionControl σ) (alive : Nat → Bool) (self : Nat) (spot : Spot σ)
    (s : Session σ) (pid : Nat) :
    advance vcs alive self spot (.askFrames pid) s
      = (.afterAsked spot.path pid (vcs.heldFrames ownLabels s.world).1,
        ⟨(vcs.heldFrames ownLabels s.world).2,
          s.events ++ [.heldFrames ownLabels (vcs.heldFrames ownLabels s.world).1]⟩) := by
  simp only [advance, VersionControl.askHeldFrames, Act.perform, bind, StateT.bind, ownLabels]
  generalize vcs.heldFrames [unstagedLabel, stagedLabel] s.world = asked
  obtain ⟨answer, w⟩ := asked
  rcases answer with e | frames
  · rfl
  · cases frames <;> rfl

/-- From the question about the frames on, for a process that is gone. -/
theorem ends_askFrames (hspot : spot.place.Lawful) (hquery : AsksOnly vcs spot) (n : Nat)
    (h : spot.Shows s.world (some entry)) (hnamed : named? (some entry) = some pid)
    (hgone : isRunning alive pid = false) :
    ∃ last after cs, Ends vcs alive self spot (n + 4) (.askFrames pid) s last after cs ∧
      Acquired alive self spot.path (vcs.heldFrames ownLabels s.world).1 (some entry) cs
        (answerOf last) after := by
  have hshows := hquery ownLabels s.world (some entry) h
  have hadvance := advance_askFrames vcs alive self spot s pid
  generalize vcs.heldFrames ownLabels s.world = asked at hshows hadvance ⊢
  obtain ⟨frames, w⟩ := asked
  rcases frames with e | frames
  · exact ⟨_, _, _, Ends.step hadvance rfl (ends_last _ (.inr ⟨_, rfl⟩) hshows),
      .unlisted hnamed hgone rfl⟩
  cases frames with
  | nil =>
    obtain ⟨content, executable, rfl, -⟩ := exists_file_of_named hnamed
    exact ⟨_, _, _, Ends.step hadvance rfl (ends_removeStale hspot n pid hshows),
      .takenOver hnamed hgone rfl⟩
  | cons frame rest =>
    exact ⟨_, _, _, Ends.step hadvance rfl (ends_last _ (.inr ⟨_, rfl⟩) hshows),
      .stranded hnamed hgone rfl⟩

/-- From the reading of a lock that is there. -/
theorem ends_inspect (hspot : spot.place.Lawful) (hquery : AsksOnly vcs spot) (n : Nat)
    (h : spot.Shows s.world (some entry)) :
    ∃ last after cs, Ends vcs alive self spot (n + 6) .inspect s last after cs ∧
      Acquired alive self spot.path (vcs.heldFrames ownLabels s.world).1 (some entry) cs
        (answerOf last) after := by
  have hinspect : advance vcs alive self spot .inspect s
      = ((named? (some entry)).elim .tell .probe, s) := by
    simp only [advance, Act.quietly, bind, StateT.bind, readHolder_eq h]
    cases named? (some entry) <;> rfl
  cases hnamed : named? (some entry) with
  | none =>
    rw [hnamed] at hinspect
    exact ⟨_, _, _, Ends.quiet (w := s.world) hinspect (ends_tell (n + 4) h hnamed), .unreadable hnamed⟩
  | some pid =>
    rw [hnamed] at hinspect
    cases hrunning : isRunning alive pid with
    | true =>
      have hprobe : advance vcs alive self spot (.probe pid) s = (.tell, s) := by
        simp only [advance, hrunning, if_true]
        rfl
      have htell : Ends vcs alive self spot (n + 5) (.probe pid) s
          (.refused (heldBy spot.path (some pid))) (some entry) [] :=
        Ends.quiet (w := s.world) hprobe (ends_tell (n + 3) h hnamed)
      exact ⟨_, _, _, Ends.quiet (w := s.world) hinspect htell, .running hnamed hrunning⟩
    | false =>
      have hprobe : advance vcs alive self spot (.probe pid) s = (.askFrames pid, s) := by
        simp only [advance, hrunning, Bool.false_eq_true, if_false]
        rfl
      obtain ⟨last, after, cs, hends, hacquired⟩ := ends_askFrames hspot hquery n h hnamed hrunning
      exact ⟨last, after, cs,
        Ends.quiet (w := s.world) hinspect (Ends.quiet (w := s.world) hprobe hends), hacquired⟩

variable (vcs alive self) in
/-- **An attempt at the lock goes one of six ways**, in a directory that is there. -/
theorem acquires (hspot : spot.place.Lawful) (hquery : AsksOnly vcs spot)
    (h : spot.Shows s.world found) :
    ∃ es after, (acquire vcs alive self spot s).2.events = s.events ++ es ∧
      spot.Shows (acquire vcs alive self spot s).2.world after ∧
      Acquired alive self spot.path (vcs.heldFrames ownLabels s.world).1 found (calls es)
        (acquire vcs alive self spot s).1 after := by
  have hway : ∃ last after cs, Ends vcs alive self spot (1 + 7) .create s last after cs ∧
      Acquired alive self spot.path (vcs.heldFrames ownLabels s.world).1 found cs (answerOf last)
        after := by
    cases found with
    | none => exact ⟨_, _, _, ends_create hspot 6 (.inl rfl) h, .free⟩
    | some entry =>
      have hcreate : advance vcs alive self spot .create s = (.inspect, s) := by
        simp only [advance, Act.quietly, bind, StateT.bind, h.create_taken]
        rfl
      obtain ⟨last, after, cs, hends, hacquired⟩ := ends_inspect hspot hquery 1 h
      exact ⟨last, after, cs, Ends.quiet (w := s.world) hcreate hends, hacquired⟩
  obtain ⟨last, after, cs, ⟨s', es, hends, hes, rfl, hshows⟩, hacquired⟩ := hway
  have hacquire : acquire vcs alive self spot s = (answerOf last, s') := by
    simp only [acquire, Stage.rank, bind, StateT.bind]
    rw [show advanceBy vcs alive self spot 8 .create s = (last, s') from hends]
    cases last <;> rfl
  rw [hacquire]
  exact ⟨es, after, hes, hshows, hacquired⟩

/-! ## When the lock is had -/

/-- A process that runs: its number is a positive one of 31 bits. -/
def Live (alive : Nat → Bool) (pid : Nat) : Prop := 0 < pid ∧ pid ≤ 2147483647 ∧ alive pid = true

theorem isRunning_eq_true_iff : isRunning alive pid = true ↔ Live alive pid := by
  simp only [isRunning, Bool.and_eq_true, decide_eq_true_iff, Live, and_assoc]
  refine and_congr_right fun _ => and_congr_left fun _ => ?_
  omega

/-- A lock whose run is gone: a file that names a process, and that process does not run. -/
def Abandoned (alive : Nat → Bool) (found : Option Entry) : Prop :=
  ∃ content executable pid, found = some (.file content executable) ∧ NamesProcess content pid ∧
    ¬Live alive pid

theorem abandoned_iff :
    Abandoned alive found ↔ ∃ pid, named? found = some pid ∧ isRunning alive pid = false := by
  constructor
  · rintro ⟨content, executable, pid, rfl, hnames, hdead⟩
    exact ⟨pid, holder?_eq_some_iff.mpr hnames,
      Bool.eq_false_iff.mpr (mt isRunning_eq_true_iff.mp hdead)⟩
  · rintro ⟨pid, hnamed, hgone⟩
    cases found with
    | none => cases hnamed
    | some entry =>
      obtain ⟨content, executable, rfl, hholder⟩ := exists_file_of_named hnamed
      exact ⟨content, executable, pid, rfl, holder?_eq_some_iff.mp hholder,
        mt isRunning_eq_true_iff.mpr (Bool.eq_false_iff.mp hgone)⟩

namespace Acquired

variable {path : String} {frames : Except VcsError (List Frame)} {after : Option Entry}
  {cs : List Event} {answer : Except RunError Unit}

theorem ok_iff (h : Acquired alive self path frames found cs answer after) :
    answer = .ok () ↔ found = none ∨ Abandoned alive found ∧ frames = .ok [] := by
  rw [abandoned_iff]
  cases h with
  | free => simp
  | unreadable hnamed => simp [hnamed]
  | running hnamed hrunning => simp [hnamed, hrunning]
  | unlisted hnamed hgone hframes => simp [hframes]
  | stranded hnamed hgone hframes => simp [hframes]
  | takenOver hnamed hgone hframes => simp [hnamed, hgone, hframes]

/-- The spot holds the own claim after a success, and what it held after a refusal. -/
theorem after_eq (h : Acquired alive self path frames found cs answer after) :
    after = match answer with
      | .ok () => some (.file (claim self) false)
      | .error _ => found := by
  cases h <;> rfl

theorem calls_eq (h : Acquired alive self path frames found cs answer after) :
    (Abandoned alive found → cs = [.heldFrames ownLabels frames]) ∧
      (¬Abandoned alive found → cs = []) := by
  rw [abandoned_iff]
  cases h with
  | free => simp [named?]
  | unreadable hnamed => simp [hnamed]
  | running hnamed hrunning => simp [hnamed, hrunning]
  | unlisted hnamed hgone => simp [hnamed, hgone]
  | stranded hnamed hgone => simp [hnamed, hgone]
  | takenOver hnamed hgone => simp [hnamed, hgone]

end Acquired

variable (vcs alive self) in
/-- **The lock is had in the safe cases only, and else nothing is changed.** In a directory that is
there, with no one acting in between, an attempt succeeds if and only if the spot is free, or a file
there names a process that does not run and no frame of the run's own is held. Then the file holds the
own number and a newline; otherwise the spot is as it was. The frames are asked about for a process that
does not run, and never else. -/
theorem acquire_iff (hspot : spot.place.Lawful) (hquery : AsksOnly vcs spot)
    (h : spot.Shows s.world found) :
    ((acquire vcs alive self spot s).1 = .ok () ↔
      found = none ∨ Abandoned alive found ∧ (vcs.heldFrames ownLabels s.world).1 = .ok []) ∧
    ((acquire vcs alive self spot s).1 = .ok () →
      spot.Shows (acquire vcs alive self spot s).2.world
        (some (.file (Bytes.ofText (toString self ++ "\n")) false))) ∧
    (∀ e, (acquire vcs alive self spot s).1 = .error e →
      spot.Shows (acquire vcs alive self spot s).2.world found) ∧
    ∃ es, (acquire vcs alive self spot s).2.events = s.events ++ es ∧
      (Abandoned alive found →
        calls es = [.heldFrames ownLabels (vcs.heldFrames ownLabels s.world).1]) ∧
      (¬Abandoned alive found → calls es = []) := by
  obtain ⟨es, after, hes, hshows, hway⟩ := acquires vcs alive self hspot hquery h
  generalize acquire vcs alive self spot s = attempt at hes hshows hway ⊢
  obtain ⟨answer, s'⟩ := attempt
  rw [hway.after_eq] at hshows
  refine ⟨hway.ok_iff, ?_, ?_, es, hes, hway.calls_eq⟩
  · rintro rfl
    exact hshows
  · rintro e rfl
    exact hshows

end Attempts

/-- A lock that names a process with a sign and blank space around it, and nothing else there. -/
def signedStage : Rehearsal.Stage :=
  { folder := some [("difflint.lock", .file (Bytes.ofText "\t+0007 \n") false)] }

/-- An attempt at that lock, of the process 100. -/
def signedAttempt : Except RunError Unit × Session Rehearsal.Stage :=
  acquire Rehearsal.versionControl Contest.pairAlive 100 Contest.rehearsedSpot { world := signedStage }

/-- No process 7 runs, so the lock is taken over. -/
theorem acquire_iff_signed :
    Contest.rehearsedSpot.place.Lawful ∧
      AsksOnly Rehearsal.versionControl Contest.rehearsedSpot ∧
      Abandoned Contest.pairAlive (some (.file (Bytes.ofText "\t+0007 \n") false)) ∧
      signedAttempt.1 = .ok () ∧
      Contest.rehearsedSpot.Shows signedAttempt.2.world
        (some (.file (Bytes.ofText (toString 100 ++ "\n")) false)) := by
  have hshows : Contest.rehearsedSpot.Shows signedStage
      (some (.file (Bytes.ofText "\t+0007 \n") false)) := ⟨_, rfl, rfl⟩
  obtain ⟨hiff, hclaimed, -⟩ := acquire_iff Rehearsal.versionControl Contest.pairAlive 100
    (s := { world := signedStage }) Rehearsal.place_lawful Contest.rehearsed_asksOnly hshows
  have hgone : Abandoned Contest.pairAlive (some (.file (Bytes.ofText "\t+0007 \n") false)) :=
    abandoned_iff.mpr ⟨7, by decide +kernel, by decide⟩
  have hok : signedAttempt.1 = .ok () := hiff.mpr (.inr ⟨hgone, rfl⟩)
  exact ⟨Rehearsal.place_lawful, Contest.rehearsed_asksOnly, hgone, hok, hclaimed hok⟩

end LintGate.Lock
