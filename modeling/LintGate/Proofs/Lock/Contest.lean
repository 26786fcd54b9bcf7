/-
Runs that contend for one lock.

Any number of runs are at work on one repository, each at a stage of its own attempt, and
their steps come in any order. The file at the lock's spot belongs to the run that created
it. Its name says nothing about that: a run whose file was removed in the meantime writes
its process number into a file that no name leads to, and takes that for the lock. So a
contest keeps the owner of the file beside the world.

What creating a file alone gives is `Owned`: the runs that have created their file and not
given it back own the one at the spot. A step keeps this unless it removes the file of a run
that is not the one to act (`Robs`). When no lock is there to begin with, no step does that:
every lock that is ever read names a run that runs (`Signed`), so none is taken over.
-/
import LintGate.Proofs.Lock.Steps
import Mathlib.Logic.Function.Basic

set_option autoImplicit false

namespace LintGate.Lock

/-- A stage between creating the file and giving it back. -/
def Stage.HasFile : Stage → Prop
  | sign => True
  | withdraw _ => True
  | taken => True
  | _ => False

/-- A stage that is come to without a stale lock. -/
def Stage.Early (alive : Nat → Bool) : Stage → Prop
  | probe pid => isRunning alive pid = true
  | askFrames _ => False
  | removeStale _ => False
  | recreate => False
  | _ => True

/-! ## Contests -/

/-- Runs on one repository, each by its process number. -/
structure Contest (σ : Type) where
  world : σ
  /-- How far each run is. A run that has given the lock back is at no stage. -/
  stages : Nat → Option Stage
  /-- The run that created the file at the spot, if one of them did. -/
  owner : Option Nat

namespace Contest

variable {σ : Type}

/-- A run holds the lock: it has acquired it and not given it back. -/
def Holds (t : Contest σ) (pid : Nat) : Prop := t.stages pid = some .taken

/-- At most one run holds the lock. -/
def Exclusive (t : Contest σ) : Prop := ∀ p q, t.Holds p → t.Holds q → p = q

/-- No run has done anything. -/
def start (w : σ) : Contest σ := ⟨w, fun _ => some .create, none⟩

/-- Whose file is at the spot after a run has acted, by what was there and what is. -/
def ownerAfter (pid : Nat) (before after : Option Entry) (owner : Option Nat) : Option Nat :=
  match before, after with
  | _, none => none
  | none, some _ => some pid
  | some _, some _ => owner

/-- A run has come to another stage and the world to another state. -/
def move (spot : Spot σ) (t : Contest σ) (pid : Nat) (stage? : Option Stage) (w : σ) : Contest σ where
  world := w
  stages := Function.update t.stages pid stage?
  owner := ownerAfter pid (spot.look t.world) (spot.look w) t.owner

/-- What may happen in a contest. -/
inductive Step (vcs : VersionControl σ) (alive : Nat → Bool) (spot : Spot σ) :
    Contest σ → Contest σ → Prop where
  /-- A run performs the next step of its attempt. -/
  | advances {t : Contest σ} {pid : Nat} {stage : Stage} (hrunning : isRunning alive pid = true)
      (hstage : t.stages pid = some stage) (hfile : stage = .sign → t.owner = some pid) :
      Step vcs alive spot t
        (t.move spot pid (some (advance vcs alive pid spot stage { world := t.world }).1)
          (advance vcs alive pid spot stage { world := t.world }).2.world)
  /-- A run signs its file, which is no longer at the spot. -/
  | signsUnlinked {t : Contest σ} {pid : Nat} (hstage : t.stages pid = some .sign)
      (hfile : t.owner ≠ some pid) : Step vcs alive spot t (t.move spot pid (some .taken) t.world)
  /-- A run cannot write into its file. -/
  | cannotSign {t : Contest σ} {pid : Nat} (error : RunError) (hstage : t.stages pid = some .sign) :
      Step vcs alive spot t (t.move spot pid (some (.withdraw error)) t.world)
  /-- A run gives the lock back. -/
  | releases {t : Contest σ} {pid : Nat} (hstage : t.stages pid = some .taken) :
      Step vcs alive spot t (t.move spot pid none (release spot { world := t.world }).2.world)
  /-- Something else happens that leaves the directory and the lock alone. -/
  | outside {t : Contest σ} {w : σ} {found : Option Entry} (hbefore : spot.Shows t.world found)
      (hafter : spot.Shows w found) : Step vcs alive spot t { t with world := w }

/-- The file of a run is gone from the spot although the run did nothing. -/
def Robs (t t' : Contest σ) : Prop :=
  ∃ pid, t.owner = some pid ∧ t'.owner ≠ some pid ∧ t'.stages pid = t.stages pid

/-! ## Owners -/

variable {vcs : VersionControl σ} {alive : Nat → Bool} {spot : Spot σ} {t t' : Contest σ}
  {pid : Nat} {stage? : Option Stage} {w : σ}

@[simp] theorem move_stages_self : (t.move spot pid stage? w).stages pid = stage? :=
  Function.update_self _ _ _

theorem move_stages_of_ne {q : Nat} (h : q ≠ pid) :
    (t.move spot pid stage? w).stages q = t.stages q :=
  Function.update_of_ne h _ _

theorem ownerAfter_same {found : Option Entry} {owner : Option Nat}
    (h : found = none → owner = none) : ownerAfter pid found found owner = owner := by
  cases found with
  | none => exact (h rfl).symm
  | some entry => rfl

/-- The runs that have a file own the one at the spot. -/
structure Owned (spot : Spot σ) (t : Contest σ) : Prop where
  shows : ∃ found, spot.Shows t.world found
  free : spot.look t.world = none → t.owner = none
  owns : ∀ {pid stage}, t.stages pid = some stage → stage.HasFile → t.owner = some pid

theorem Owned.exclusive (h : t.Owned spot) : t.Exclusive := by
  intro p q hp hq
  have howner := (h.owns hp trivial).symm.trans (h.owns hq trivial)
  exact Option.some.inj howner

/-- A run acts: the others' files stay, and if it has one now, it is its own. -/
theorem Owned.move (h : t.Owned spot) {after : Option Entry} (hafter : spot.Shows w after)
    (hfair : ¬Robs t (t.move spot pid stage? w))
    (hfile : ∀ stage, stage? = some stage → stage.HasFile →
      ownerAfter pid (spot.look t.world) (spot.look w) t.owner = some pid) :
    (t.move spot pid stage? w).Owned spot := by
  refine ⟨⟨after, hafter⟩, fun hfree => ?_, fun {q stage} hstage hhas => ?_⟩
  · -- where nothing is, no one owns anything
    have hfree : spot.look w = none := hfree
    simp only [Contest.move, hfree]
    cases spot.look t.world <;> rfl
  · by_cases hq : q = pid
    · subst hq
      rw [move_stages_self] at hstage
      exact hfile stage hstage hhas
    · -- another run is where it was, so its file is missed only if it was robbed
      have hsame : (t.move spot pid stage? w).stages q = t.stages q := move_stages_of_ne hq
      rw [hsame] at hstage
      by_contra hrobbed
      exact hfair ⟨q, h.owns hstage hhas, hrobbed, hsame⟩

theorem Owned.ownerAfter_same (h : t.Owned spot) :
    ownerAfter pid (spot.look t.world) (spot.look t.world) t.owner = t.owner :=
  Contest.ownerAfter_same h.free

/-- Giving the lock back leaves the directory there, and no other entry at the spot. -/
theorem shows_release (hspot : spot.place.Lawful) (s : Session σ) {found : Option Entry}
    (h : spot.Shows s.world found) :
    ∃ after, spot.Shows (release spot s).2.world after ∧ (after = none ∨ after = found) := by
  simp only [release, Act.quietly, bind, StateT.bind]
  by_cases hfolder : ∃ entries, found = some (.folder entries)
  · obtain ⟨entries, rfl⟩ := hfolder
    rw [h.clear_folder]
    exact ⟨_, h, .inr rfl⟩
  · push Not at hfolder
    obtain ⟨w, hw, hshows⟩ := h.clear hspot hfolder
    rw [hw]
    exact ⟨_, hshows, .inl rfl⟩

/-- **A step that robs no run keeps the owners.** -/
theorem Owned.step (hspot : spot.place.Lawful) (hquery : AsksOnly vcs spot)
    (h : t.Owned spot) (hstep : Step vcs alive spot t t') (hfair : ¬Robs t t') : t'.Owned spot := by
  obtain ⟨found, hshows⟩ := h.shows
  cases hstep with
  | @advances pid stage hrunning hstage hfile =>
    obtain ⟨after, hafter, hadvanced⟩ :=
      Lock.advances vcs alive pid hspot hquery stage { world := t.world } hshows
    refine h.move hafter hfair ?_
    intro next hnext hhas
    rw [Option.some.inj hnext] at hadvanced
    rw [hshows.look, hafter.look]
    -- the run has created its file just now, or it had it before
    have hsame : ownerAfter pid found found t.owner = t.owner := by
      rw [← hshows.look]
      exact h.ownerAfter_same
    cases hadvanced with
    | created => rfl
    | recreated => rfl
    | signed => exact hfile rfl
    | unsigned => exact hsame.trans (hfile rfl)
    | taken => exact hsame.trans (h.owns hstage trivial)
    | _ => exact hhas.elim
  | signsUnlinked hstage hfile => exact absurd (h.owns hstage trivial) hfile
  | cannotSign error hstage =>
    exact h.move hshows hfair fun _ _ _ => h.ownerAfter_same.trans (h.owns hstage trivial)
  | releases hstage =>
    obtain ⟨after, hafter, -⟩ := shows_release hspot { world := t.world } hshows
    exact h.move hafter hfair fun _ hnone => by cases hnone
  | outside hbefore hafter =>
    exact ⟨⟨_, hafter⟩, fun hfree => h.free (by rw [hbefore.look, ← hafter.look]; exact hfree), h.owns⟩

/-! ## Contests without a stale lock -/

/-- Every lock that is to be read names a run that runs, and no run has met another one. -/
structure Signed (alive : Nat → Bool) (spot : Spot σ) (t : Contest σ) : Prop where
  owned : t.Owned spot
  named : ∀ entry, spot.look t.world = some entry → ∃ pid executable, t.owner = some pid ∧
    isRunning alive pid = true ∧
      (entry = .file [] executable ∨ entry = .file (claim pid) executable)
  early : ∀ {pid stage}, t.stages pid = some stage → stage.Early alive

theorem lt_of_isRunning (h : isRunning alive pid = true) : pid < UInt32.size := by
  simp only [isRunning, Bool.and_eq_true, decide_eq_true_eq] at h
  exact Nat.lt_trans h.1.2 (by decide)

/-- Who reads the lock reads a process that runs. -/
theorem Signed.isRunning_of_named (h : t.Signed alive spot) {found : Option Entry} {reader : Nat}
    (hshows : spot.Shows t.world found) (hnamed : named? found = some reader) :
    isRunning alive reader = true := by
  cases found with
  | none => cases hnamed
  | some entry =>
    obtain ⟨pid, executable, -, hrunning, rfl | rfl⟩ := h.named entry hshows.look
    · -- a lock that is not signed yet names no process
      have hempty : holder? [] = none := by decide
      cases hempty.symm.trans hnamed
    · have hclaim : holder? (claim pid) = some reader := hnamed
      rw [holder?_claim (lt_of_isRunning hrunning)] at hclaim
      rw [← Option.some.inj hclaim]
      exact hrunning

/-- A run that leaves a file at the spot robs no other. -/
theorem Owned.not_robs_of_left (h : t.Owned spot)
    (hleft : spot.look w = none → spot.look t.world = none) :
    ¬Robs t (t.move spot pid stage? w) := by
  rintro ⟨q, howner, hlost, -⟩
  have hbefore : spot.look t.world ≠ none := fun hfree => by
    rw [h.free hfree] at howner
    cases howner
  -- a file is there before and after, and no step exchanges one for another
  obtain ⟨entry, hentry⟩ := Option.ne_none_iff_exists'.mp hbefore
  obtain ⟨entry', hentry'⟩ := Option.ne_none_iff_exists'.mp (mt hleft hbefore)
  refine hlost ?_
  rw [Contest.move, hentry, hentry']
  exact howner

/-- A run whose own file is at the spot robs no other. -/
theorem not_robs_of_owner (howner : t.owner = some pid) (hmoves : stage? ≠ t.stages pid) :
    ¬Robs t (t.move spot pid stage? w) := by
  rintro ⟨q, hq, -, hstill⟩
  obtain rfl : pid = q := Option.some.inj (howner.symm.trans hq)
  rw [move_stages_self] at hstill
  exact hmoves hstill

/-- **Without a stale lock no step robs a run.** -/
theorem Signed.not_robs (hspot : spot.place.Lawful) (hquery : AsksOnly vcs spot)
    (h : t.Signed alive spot) (hstep : Step vcs alive spot t t') : ¬Robs t t' := by
  obtain ⟨found, hshows⟩ := h.owned.shows
  cases hstep with
  | @advances pid stage hrunning hstage hfile =>
    obtain ⟨after, hafter, hadvanced⟩ :=
      Lock.advances vcs alive pid hspot hquery stage { world := t.world } hshows
    have hearly := h.early hstage
    generalize advance vcs alive pid spot stage { world := t.world } = done at hafter hadvanced ⊢
    obtain ⟨next, w, es⟩ := done
    have hleft : (after = none → found = none) → ¬Robs t (t.move spot pid (some next) w) := fun h' =>
      h.owned.not_robs_of_left (by rw [hshows.look, hafter.look]; exact h')
    -- of the two steps that remove a file, the one needs a stale lock and the other is the owner's
    cases hadvanced with
    | removed => exact hearly.elim
    | withdrawn =>
      exact not_robs_of_owner (h.owned.owns hstage trivial) (by rw [hstage]; rintro ⟨⟩)
    | created => exact hleft (by rintro ⟨⟩)
    | recreated => exact hleft (by rintro ⟨⟩)
    | signed => exact hleft (by rintro ⟨⟩)
    | _ => exact hleft id
  | signsUnlinked => exact h.owned.not_robs_of_left id
  | cannotSign => exact h.owned.not_robs_of_left id
  | releases hstage =>
    exact not_robs_of_owner (h.owned.owns hstage trivial) (by rw [hstage]; rintro ⟨⟩)
  | outside =>
    rintro ⟨q, howner, hlost, -⟩
    exact hlost howner

/-- A run acts, and does not come upon a stale lock. -/
theorem Signed.move (h : t.Signed alive spot) (howned : (t.move spot pid stage? w).Owned spot)
    (hnamed : ∀ entry, spot.look w = some entry → spot.look t.world = some entry ∨
      isRunning alive pid = true ∧ ∃ executable,
        ownerAfter pid (spot.look t.world) (some entry) t.owner = some pid ∧
          (entry = .file [] executable ∨ entry = .file (claim pid) executable))
    (hearly : ∀ stage, stage? = some stage → stage.Early alive) :
    (t.move spot pid stage? w).Signed alive spot := by
  refine ⟨howned, fun entry hentry => ?_, fun {q stage} hstage => ?_⟩
  · have hentry : spot.look w = some entry := hentry
    rcases hnamed entry hentry with hsame | ⟨hrunning, executable, howner, hfile⟩
    · obtain ⟨owner, executable, howner, hrest⟩ := h.named entry hsame
      refine ⟨owner, executable, ?_, hrest⟩
      rw [Contest.move, hsame, hentry]
      exact howner
    · refine ⟨pid, executable, ?_, hrunning, hfile⟩
      rw [Contest.move, hentry]
      exact howner
  · by_cases hq : q = pid
    · subst hq
      rw [move_stages_self] at hstage
      exact hearly stage hstage
    · rw [move_stages_of_ne hq] at hstage
      exact h.early hstage

/-- **Without a stale lock none is come upon.** -/
theorem Signed.step (hspot : spot.place.Lawful) (hquery : AsksOnly vcs spot)
    (h : t.Signed alive spot) (hstep : Step vcs alive spot t t') : t'.Signed alive spot := by
  have howned := h.owned.step hspot hquery hstep (h.not_robs hspot hquery hstep)
  obtain ⟨found, hshows⟩ := h.owned.shows
  cases hstep with
  | @advances pid stage hrunning hstage hfile =>
    obtain ⟨after, hafter, hadvanced⟩ :=
      Lock.advances vcs alive pid hspot hquery stage { world := t.world } hshows
    have hearly := h.early hstage
    refine h.move howned (fun entry hentry => ?_) fun next hnext => ?_
    · -- a file that was not there before is the run's own
      rw [hafter.look] at hentry
      rw [hshows.look]
      generalize (advance vcs alive pid spot stage { world := t.world }).1 = next at hadvanced
      cases hadvanced with
      | created =>
        cases hentry
        exact .inr ⟨hrunning, false, rfl, .inl rfl⟩
      | recreated =>
        cases hentry
        exact .inr ⟨hrunning, false, rfl, .inl rfl⟩
      | @signed _ executable =>
        cases hentry
        exact .inr ⟨hrunning, executable, hfile rfl, .inr rfl⟩
      | removed => cases hentry
      | withdrawn => cases hentry
      | _ => exact .inl hentry
    · -- the holder it reads of runs, so it does not go on to a takeover
      rw [Option.some.inj hnext] at hadvanced
      cases hadvanced with
      | read hnamed => exact h.isRunning_of_named hshows hnamed
      | gone hgone => cases hgone.symm.trans hearly
      | unstashed => exact hearly.elim
      | removed => exact hearly.elim
      | _ => trivial
  | signsUnlinked hstage =>
    exact h.move howned (fun _ hentry => .inl hentry) fun _ hnext => by cases hnext; trivial
  | cannotSign error hstage =>
    exact h.move howned (fun _ hentry => .inl hentry) fun _ hnext => by cases hnext; trivial
  | releases hstage =>
    obtain ⟨after, hafter, hwhat⟩ := shows_release hspot { world := t.world } hshows
    refine h.move howned (fun entry hentry => .inl ?_) fun _ hnext => by cases hnext
    rw [hafter.look] at hentry
    rw [hshows.look, ← hentry]
    rcases hwhat with rfl | rfl
    · cases hentry
    · rfl
  | outside hbefore hafter =>
    refine ⟨howned, fun entry hentry => h.named entry ?_, h.early⟩
    rw [hbefore.look, ← hafter.look]
    exact hentry

end Contest

end LintGate.Lock
