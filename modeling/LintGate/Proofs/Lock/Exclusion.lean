/-
Who can hold the lock at the same time.

Creating a file that must not be there is exclusive, and so is the lock as long as no run
removes the file of another one (`ReachesFairly.exclusive`). Without a lock to begin with no
run does. But taking over a stale lock is three steps: seeing that its holder is gone,
removing it, creating it again. Two runs may both have seen that the holder is gone; the one
takes the lock over, and what the other one then removes is no stale lock but the new one
(`exists_two_holders`). So from a stale lock, exclusion holds if and only if no two runs are
there to contend (`exclusive_iff`).
-/
import LintGate.Proofs.Lock.Contest
import Mathlib.Logic.Relation

set_option autoImplicit false

namespace LintGate.Lock.Contest

variable {σ : Type} {vcs : VersionControl σ} {alive : Nat → Bool} {spot : Spot σ}
  {t t' : Contest σ} {w : σ}

/-- What a contest can come to. -/
abbrev Reaches (vcs : VersionControl σ) (alive : Nat → Bool) (spot : Spot σ) :
    Contest σ → Contest σ → Prop :=
  Relation.ReflTransGen (Step vcs alive spot)

/-- What it can come to if no run removes the file of another one. -/
abbrev ReachesFairly (vcs : VersionControl σ) (alive : Nat → Bool) (spot : Spot σ) :
    Contest σ → Contest σ → Prop :=
  Relation.ReflTransGen fun t t' => Step vcs alive spot t t' ∧ ¬Robs t t'

/-! ## Exclusion -/

theorem start_owned {found : Option Entry} (h : spot.Shows w found) :
    (start w : Contest σ).Owned spot := by
  refine ⟨⟨found, h⟩, fun _ => rfl, fun {pid stage} hstage hhas => ?_⟩
  cases hstage
  exact hhas.elim

theorem start_signed (h : spot.Shows w none) : (start w : Contest σ).Signed alive spot := by
  refine ⟨start_owned h, fun entry hentry => ?_, fun {pid stage} hstage => ?_⟩
  · cases h.look.symm.trans hentry
  · cases hstage
    trivial

section Steps

variable (hspot : spot.place.Lawful) (hquery : AsksOnly vcs spot)

include hspot hquery

/-- **No two runs hold the lock** while no run removes the file of another one. -/
theorem ReachesFairly.exclusive {found : Option Entry} (h : spot.Shows w found)
    (hreach : ReachesFairly vcs alive spot (start w) t) : t.Exclusive := by
  have howned : t.Owned spot := by
    induction hreach with
    | refl => exact start_owned h
    | tail _ hstep ih => exact ih.step hspot hquery hstep.1 hstep.2
  exact howned.exclusive

/-- **Without a lock to begin with no two runs hold it.** -/
theorem Reaches.exclusive_of_free (h : spot.Shows w none)
    (hreach : Reaches vcs alive spot (start w) t) : t.Exclusive := by
  have hsigned : t.Signed alive spot := by
    induction hreach with
    | refl => exact start_signed h
    | tail _ hstep ih => exact ih.step hspot hquery hstep
  exact hsigned.owned.exclusive

end Steps

/-- A run that has done anything is one that runs. -/
theorem Reaches.create_or_isRunning (hreach : Reaches vcs alive spot (start w) t) :
    ∀ pid, t.stages pid = some .create ∨ isRunning alive pid = true := by
  induction hreach with
  | refl => exact fun _ => .inl rfl
  | @tail t t' _ hstep ih =>
    have hmove : ∀ {q : Nat} {stage? : Option Stage} {w : σ}, isRunning alive q = true →
        ∀ pid, (t.move spot q stage? w).stages pid = some .create ∨ isRunning alive pid = true := by
      intro q stage? w hq pid
      by_cases hpid : pid = q
      · exact .inr (hpid ▸ hq)
      · rw [move_stages_of_ne hpid]
        exact ih pid
    -- a run that is past its first step has begun
    have hbegun : ∀ {q : Nat} {stage : Stage}, t.stages q = some stage → stage ≠ .create →
        isRunning alive q = true := fun {q stage} hstage hne =>
      (ih q).resolve_left fun hcreate => hne (Option.some.inj (hstage.symm.trans hcreate))
    cases hstep with
    | advances hrunning => exact hmove hrunning
    | signsUnlinked hstage => exact hmove (hbegun hstage (by rintro ⟨⟩))
    | cannotSign error hstage => exact hmove (hbegun hstage (by rintro ⟨⟩))
    | releases hstage => exact hmove (hbegun hstage (by rintro ⟨⟩))
    | outside => exact ih

/-- A run that is alone shares the lock with no other. -/
theorem Reaches.exclusive_of_sole
    (hsole : ∀ p q, isRunning alive p = true → isRunning alive q = true → p = q)
    (hreach : Reaches vcs alive spot (start w) t) : t.Exclusive := by
  have hholds : ∀ pid, t.Holds pid → isRunning alive pid = true := fun pid hpid =>
    (hreach.create_or_isRunning pid).resolve_left fun hcreate => by
      cases hcreate.symm.trans hpid
  exact fun p q hp hq => hsole p q (hholds p hp) (hholds q hq)

/-! ## Taking over -/

/-- A lock that may be taken over: its process is gone and left no frames. -/
structure Stale (vcs : VersionControl σ) (alive : Nat → Bool) (spot : Spot σ) (w : σ) (pid : Nat) :
    Prop where
  lock : ∃ content executable, spot.Shows w (some (.file content executable)) ∧
    holder? content = some pid
  gone : isRunning alive pid = false
  unstashed : vcs.heldFrames [unstagedLabel, stagedLabel] w = (.ok [], w)

/-- The contest with one run at another stage. -/
def setStage (t : Contest σ) (self : Nat) (stage : Stage) : Contest σ :=
  { t with stages := Function.update t.stages self (some stage) }

/-- A step that leaves the world as it is. -/
theorem step_setStage {self : Nat} {stage next : Stage} (hrunning : isRunning alive self = true)
    (hsign : stage ≠ .sign) (hlook : spot.look t.world ≠ none)
    (hnext : (advance vcs alive self spot stage { world := t.world }).1 = next)
    (hworld : (advance vcs alive self spot stage { world := t.world }).2.world = t.world) :
    Step vcs alive spot (t.setStage self stage) (t.setStage self next) := by
  have hstage : (t.setStage self stage).stages self = some stage := Function.update_self _ _ _
  have hstep : Step vcs alive spot (t.setStage self stage) _ :=
    .advances hrunning hstage fun h => absurd h hsign
  have howner : ownerAfter self (spot.look t.world) (spot.look t.world) t.owner = t.owner :=
    ownerAfter_same fun hfree => absurd hfree hlook
  have hmove : (t.setStage self stage).move spot self (some next) t.world = t.setStage self next := by
    simp only [move, setStage, howner, Function.update_idem]
  have hstart : (t.setStage self stage).world = t.world := rfl
  rwa [hstart, hnext, hworld, hmove] at hstep

/-- A run that begins sees that the lock is stale, and is to remove it. -/
theorem Stale.reaches_removeStale {self pid : Nat} (h : Stale vcs alive spot t.world pid)
    (hrunning : isRunning alive self = true) (hstage : t.stages self = some .create) :
    Reaches vcs alive spot t (t.setStage self (.removeStale pid)) := by
  obtain ⟨content, executable, hshows, hholder⟩ := h.lock
  have hlook : spot.look t.world ≠ none := by
    rw [hshows.look]
    rintro ⟨⟩
  have hcreate : Step vcs alive spot (t.setStage self .create) (t.setStage self .inspect) := by
    refine step_setStage hrunning (by rintro ⟨⟩) hlook ?_ ?_ <;>
      simp only [advance, Act.quietly, bind, StateT.bind, hshows.create_taken] <;> rfl
  have hinspect : Step vcs alive spot (t.setStage self .inspect) (t.setStage self (.probe pid)) := by
    have hnamed : named? (some (.file content executable)) = some pid := hholder
    refine step_setStage hrunning (by rintro ⟨⟩) hlook ?_ ?_ <;>
      simp only [advance, Act.quietly, bind, StateT.bind, readHolder_eq hshows, hnamed] <;> rfl
  have hprobe :
      Step vcs alive spot (t.setStage self (.probe pid)) (t.setStage self (.askFrames pid)) := by
    refine step_setStage hrunning (by rintro ⟨⟩) hlook ?_ ?_ <;>
      simp only [advance, h.gone, Bool.false_eq_true, if_false] <;> rfl
  have hask :
      Step vcs alive spot (t.setStage self (.askFrames pid)) (t.setStage self (.removeStale pid)) := by
    refine step_setStage hrunning (by rintro ⟨⟩) hlook ?_ ?_ <;>
      simp only [advance, VersionControl.askHeldFrames, Act.perform, bind, StateT.bind, h.unstashed] <;>
      rfl
  have hstart : t.setStage self .create = t := by
    rw [setStage, ← hstage, Function.update_eq_self]
  rw [hstart] at hcreate
  exact (((Relation.ReflTransGen.single hcreate).tail hinspect).tail hprobe).tail hask

section Takeover

variable (hspot : spot.place.Lawful) (hquery : AsksOnly vcs spot)

include hspot hquery

/-- A run can always perform its next step. -/
theorem exists_step {self : Nat} {stage : Stage} {found : Option Entry}
    (hrunning : isRunning alive self = true) (hstage : t.stages self = some stage)
    (hfile : stage = .sign → t.owner = some self) (hshows : spot.Shows t.world found) :
    ∃ next w after, Step vcs alive spot t (t.move spot self (some next) w) ∧ spot.Shows w after ∧
      Advanced alive self stage found next after := by
  obtain ⟨after, hafter, hadvanced⟩ :=
    Lock.advances vcs alive self hspot hquery stage { world := t.world } hshows
  exact ⟨_, _, after, .advances hrunning hstage hfile, hafter, hadvanced⟩

/-- A run that is to remove a stale lock takes over whatever file is at the spot by then. -/
theorem reaches_taken {self pid : Nat} {content : Bytes} {executable : Bool}
    (hrunning : isRunning alive self = true) (hstage : t.stages self = some (.removeStale pid))
    (hshows : spot.Shows t.world (some (.file content executable))) :
    ∃ t', Reaches vcs alive spot t t' ∧ t'.stages = Function.update t.stages self (some .taken) ∧
      ∃ content' executable', spot.Shows t'.world (some (.file content' executable')) := by
  -- the run removes what is there: by now it may be the lock of another run
  obtain ⟨next, w₁, after, hremove, hfree, hadvanced⟩ := exists_step hspot hquery hrunning hstage
    (by rintro ⟨⟩) hshows
  cases hadvanced
  have hstage₁ : (t.move spot self (some .recreate) w₁).stages self = some .recreate :=
    move_stages_self
  obtain ⟨next, w₂, after, hcreate, hempty, hadvanced⟩ := exists_step hspot hquery hrunning hstage₁
    (by rintro ⟨⟩) hfree
  cases hadvanced
  have hstage₂ : ((t.move spot self (some .recreate) w₁).move spot self (some .sign) w₂).stages self
      = some .sign := move_stages_self
  have howner : ((t.move spot self (some .recreate) w₁).move spot self (some .sign) w₂).owner
      = some self := by
    change ownerAfter self (spot.look w₁) (spot.look w₂) _ = some self
    rw [hfree.look, hempty.look]
    rfl
  obtain ⟨next, w₃, after, hsign, hsigned, hadvanced⟩ := exists_step hspot hquery hrunning hstage₂
    (fun _ => howner) hempty
  cases hadvanced with
  | unsigned hfile => exact absurd rfl (hfile _ _)
  | signed =>
    refine ⟨_, ((Relation.ReflTransGen.single hremove).tail hcreate).tail hsign, ?_, _, _, hsigned⟩
    simp only [move, Function.update_idem]

/-- **Two runs that find a stale lock can both take it over.** Both see that its process is gone.
The one removes it and takes the lock; then the other one removes that lock and takes its own. -/
theorem exists_two_holders {p q pid : Nat} (h : Stale vcs alive spot w pid) (hne : p ≠ q)
    (hp : isRunning alive p = true) (hq : isRunning alive q = true) :
    ∃ t, Reaches vcs alive spot (start w) t ∧ t.Holds p ∧ t.Holds q := by
  obtain ⟨content, executable, hshows, -⟩ := h.lock
  have hsee : Reaches vcs alive spot (start w) ((start w).setStage p (.removeStale pid)) :=
    Stale.reaches_removeStale h hp rfl
  have hsee' : Reaches vcs alive spot ((start w).setStage p (.removeStale pid))
      (((start w).setStage p (.removeStale pid)).setStage q (.removeStale pid)) :=
    Stale.reaches_removeStale h hq (Function.update_of_ne hne.symm _ _)
  have hpstage : (((start w).setStage p (.removeStale pid)).setStage q (.removeStale pid)).stages p
      = some (.removeStale pid) :=
    (Function.update_of_ne hne _ _).trans (Function.update_self _ _ _)
  -- both have seen the stale lock, and act one after the other
  obtain ⟨t₁, htake, hstages, content', executable', hshows'⟩ :=
    reaches_taken hspot hquery hp hpstage hshows
  have hqstage : t₁.stages q = some (.removeStale pid) := by
    rw [hstages, Function.update_of_ne hne.symm]
    exact Function.update_self _ _ _
  obtain ⟨t₂, htake', hstages', -⟩ := reaches_taken hspot hquery hq hqstage hshows'
  refine ⟨t₂, ((hsee.trans hsee').trans htake).trans htake', ?_, ?_⟩
  · rw [Holds, hstages', Function.update_of_ne hne, hstages, Function.update_self]
  · rw [Holds, hstages', Function.update_self]

/-- **When the lock excludes.** Runs that start where no lock is, or where a stale one is, never hold
it at the same time, in whatever order their steps come, if and only if no lock is there or no two
runs are. And from a stale lock, too, two runs hold it only after one has removed the other's file. -/
theorem exclusive_iff (hstart : spot.Shows w none ∨ ∃ pid, Stale vcs alive spot w pid) :
    ((∀ t, Reaches vcs alive spot (start w) t → t.Exclusive) ↔
      spot.Shows w none ∨ ∀ p q, isRunning alive p = true → isRunning alive q = true → p = q) ∧
    ∀ t, ReachesFairly vcs alive spot (start w) t → t.Exclusive := by
  have hshows : ∃ found, spot.Shows w found := by
    rcases hstart with hfree | ⟨pid, hstale⟩
    · exact ⟨_, hfree⟩
    · obtain ⟨content, executable, hshows, -⟩ := hstale.lock
      exact ⟨_, hshows⟩
  obtain ⟨found, hshows⟩ := hshows
  refine ⟨⟨fun hexclusive => ?_, ?_⟩, fun t => ReachesFairly.exclusive hspot hquery hshows⟩
  · refine hstart.imp_right ?_
    rintro ⟨pid, hstale⟩ p q hp hq
    by_contra hne
    obtain ⟨t, hreach, hholds, hholds'⟩ := exists_two_holders hspot hquery hstale hne hp hq
    exact hne (hexclusive t hreach p q hholds hholds')
  · rintro (hfree | hsole) t hreach
    · exact Reaches.exclusive_of_free hspot hquery hfree hreach
    · exact Reaches.exclusive_of_sole hsole hreach

end Takeover

/-! ## A rehearsed contest -/

/-- Asking for frames changes nothing in a rehearsal. -/
theorem heldFrames_rehearsed (labels : List String) (w : Rehearsal.Stage) :
    (Rehearsal.versionControl.heldFrames labels w).2 = w := by
  simp only [Rehearsal.versionControl, Rehearsal.scripted, bind, StateT.bind, get, getThe,
    MonadStateOf.get, StateT.get, pure]
  cases w.plan.failing.lookup ("held_frames " ++ ", ".intercalate labels) <;> rfl

/-- The lock in the directory of a rehearsal. -/
def rehearsedSpot : Spot Rehearsal.Stage := ⟨Rehearsal.place, "difflint.lock", "difflint.lock"⟩

theorem rehearsed_asksOnly : AsksOnly Rehearsal.versionControl rehearsedSpot := by
  intro labels w found h
  rw [heldFrames_rehearsed]
  exact h

/-- Two processes run. -/
def pairAlive (pid : Nat) : Bool := pid == 100 || pid == 200

/-- Two runs where no lock is never hold it at the same time. -/
theorem exclusive_iff_free :
    rehearsedSpot.place.Lawful ∧ rehearsedSpot.Shows {} none ∧
      isRunning pairAlive 100 = true ∧ isRunning pairAlive 200 = true ∧
      ∀ t, Reaches Rehearsal.versionControl pairAlive rehearsedSpot (start {}) t → t.Exclusive := by
  have hfree : rehearsedSpot.Shows {} none := ⟨[], rfl, rfl⟩
  exact ⟨Rehearsal.place_lawful, hfree, by decide, by decide,
    (exclusive_iff Rehearsal.place_lawful rehearsed_asksOnly
      (.inl hfree)).1.mpr (.inl hfree)⟩

/-- A lock whose process number no process can have. -/
def staleStage : Rehearsal.Stage :=
  { folder := some [("difflint.lock", .file (Bytes.ofText "4294967295\n") false)] }

/-- **The lock of a run is taken for a stale one.** Where a stale lock is and no frame, two runs come
to hold the lock at the same time. -/
theorem stale_lock_taken_twice :
    Stale Rehearsal.versionControl pairAlive rehearsedSpot staleStage 4294967295 ∧
      isRunning pairAlive 100 = true ∧ isRunning pairAlive 200 = true ∧
      ∃ t, Reaches Rehearsal.versionControl pairAlive rehearsedSpot (start staleStage) t ∧
        t.Holds 100 ∧ t.Holds 200 ∧ ¬t.Exclusive := by
  have hstale : Stale Rehearsal.versionControl pairAlive rehearsedSpot staleStage 4294967295 :=
    ⟨⟨_, _, ⟨_, rfl, rfl⟩, by decide +kernel⟩, by decide, rfl⟩
  have hrun : isRunning pairAlive 100 = true := by decide
  have hrun' : isRunning pairAlive 200 = true := by decide
  obtain ⟨t, hreach, hholds, hholds'⟩ := exists_two_holders Rehearsal.place_lawful
    rehearsed_asksOnly hstale (by decide) hrun hrun'
  exact ⟨hstale, hrun, hrun', t, hreach, hholds, hholds',
    fun hexclusive => absurd (hexclusive 100 200 hholds hholds') (by decide)⟩

end LintGate.Lock.Contest
