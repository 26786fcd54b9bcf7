/-
A repository that is nothing but a stash.

Its tool lists, drops and makes entries, and everything else it is asked for it does
without a trace. Ids are made by length, so that a new one differs from all before it.
Somebody else works in the same repository: behind each call of the tool that `disturbed`
accepts, another entry is pushed that is not the gate's. So runs can be tried out in which
the entries of others come in at any point, also where the gate does not expect them.
-/
import LintGate.Proofs.Repository.Holding

set_option autoImplicit false

namespace LintGate

open StashEntry (ids)

/-- The entry with the id of a length. -/
def StashEntry.ofLength (length : Nat) (subject : String) : StashEntry where
  id := String.ofList (List.replicate (length + 1) 'e')
  subject := String.ofList (subject.toList.filter (· != '\n'))
  id_ne := fun h => by simpa using congrArg String.toList h
  id_solid := fun c hc => by
    rw [String.toList_ofList] at hc
    rw [List.eq_of_mem_replicate hc]
    decide
  subject_line := by
    rw [String.toList_ofList, List.mem_filter]
    exact fun h => by simpa using h.2

theorem StashEntry.length_id_ofLength (length : Nat) (subject : String) :
    (StashEntry.ofLength length subject).id.toList.length = length + 1 := by
  rw [ofLength, String.toList_ofList, List.length_replicate]

/-- A stash, with the entries that others pushed. No id is longer than `size`. -/
structure Shelf where
  entries : List StashEntry := []
  others : List StashEntry := []
  size : Nat := 0
  bounded : ∀ e ∈ entries, e.id.toList.length ≤ size
  distinct : (ids entries).Nodup

namespace Shelf

/-- The entry that is made next. -/
def next (f : Shelf) (subject : String) : StashEntry := .ofLength f.size subject

/-- Makes an entry. -/
def push (f : Shelf) (subject : String) : Shelf where
  entries := f.next subject :: f.entries
  others := f.others
  size := f.size + 1
  bounded := fun e he => by
    rcases List.mem_cons.mp he with rfl | he
    · exact (StashEntry.length_id_ofLength f.size subject).le
    · exact Nat.le_succ_of_le (f.bounded e he)
  distinct := by
    refine List.nodup_cons.mpr ⟨fun hmem => ?_, f.distinct⟩
    -- the new id is longer than every other
    obtain ⟨e, he, hid⟩ := List.mem_map.mp hmem
    have hlength := f.bounded e he
    rw [hid, next, StashEntry.length_id_ofLength] at hlength
    exact Nat.not_succ_le_self _ hlength

/-- Removes the entry at a position. -/
def drop (f : Shelf) (position : Nat) : Shelf where
  entries := f.entries.eraseIdx position
  others := f.others
  size := f.size
  bounded := fun e he => f.bounded e (List.mem_of_mem_eraseIdx he)
  distinct := ((List.eraseIdx_sublist f.entries position).map _).nodup f.distinct

/-- Somebody else pushes an entry. -/
def disturb (f : Shelf) : Shelf :=
  { f.push "On main: theirs" with others := f.next "On main: theirs" :: f.others }

/-- The position that a name tells. -/
def position? (f : Shelf) (name : String) : Option Nat :=
  (List.range f.entries.length).find? fun position => Repository.entryName position == name

/-- What the tool does, and what it writes. -/
def act (args : List String) (f : Shelf) : ToolRun × Shelf :=
  match args with
  | ["stash", "list", "--format=%H"] =>
    (⟨.exited 0, Bytes.ofText (StashEntry.idListing f.entries), []⟩, f)
  | ["stash", "list", "--format=%H %s"] =>
    (⟨.exited 0, Bytes.ofText (StashEntry.fullListing f.entries), []⟩, f)
  | ["stash", "drop", "--quiet", name] =>
    match f.position? name with
    | some position => (⟨.exited 0, [], []⟩, f.drop position)
    | none => (⟨.exited 1, [], Bytes.ofText (name ++ " is not a valid reference")⟩, f)
  | "stash" :: "push" :: rest => (⟨.exited 0, [], []⟩, f.push ("On main: " ++ rest.getLastD ""))
  | _ => (⟨.exited 0, [], []⟩, f)

/-- A repository with a stash, in which others push entries behind some calls of the tool. -/
def repository (disturbed : List String → Bool) : Repository Shelf where
  root := "/work/"
  directory := "/work/.git/"
  place := ⟨fun _ => some [], fun _ f => f⟩
  stagedChanges := fun f => (.ok [], f)
  hasCommits := fun f => (.ok true, f)
  stashTop := fun f => (.ok (ids f.entries).head?, f)
  run := fun args f =>
    (.ok (act args f).1, if disturbed args then (act args f).2.disturb else (act args f).2)

/-- The stash of a shelf. -/
def stash : Stash Shelf := ⟨entries, others⟩

theorem grows_disturb (f : Shelf) : stash.Grows f f.disturb := ⟨[f.next "On main: theirs"], rfl, rfl⟩

/-- What a call leaves, others may push their entries on. -/
theorem leaves_run (disturbed : List String → Bool) {args : List String} {f : Shelf}
    {kept : List StashEntry} (h : stash.Leaves f (act args f).2 kept) :
    stash.Leaves f ((repository disturbed).run args f).2 kept := by
  show stash.Leaves f (if disturbed args then (act args f).2.disturb else (act args f).2) kept
  split
  · exact h.grows (grows_disturb _)
  · exact h

theorem entryName_inj {position position' : Nat} :
    Repository.entryName position = Repository.entryName position' ↔ position = position' := by
  refine ⟨fun h => ?_, fun h => by rw [h]⟩
  have hname : ∀ n, Repository.entryName n = "stash@\x7b" ++ toString n ++ "\x7d" := by
    intro n
    rfl
  rw [hname, hname, String.append_left_inj, String.append_right_inj] at h
  exact Text.toString_inj (congrArg String.toList h)

/-- A name tells the position it was made of. -/
theorem position?_entryName {f : Shelf} {position : Nat} (h : position < f.entries.length) :
    f.position? (Repository.entryName position) = some position := by
  rw [position?, List.find?_range_eq_some]
  refine ⟨beq_self_eq_true _, List.mem_range.mpr h, fun other hlt => ?_⟩
  rw [Bool.not_eq_true', beq_eq_false_iff_ne, ne_eq, entryName_inj]
  exact hlt.ne

theorem act_dropArgs {f : Shelf} {position : Nat} (h : position < f.entries.length) :
    act (Repository.dropArgs position) f = (⟨.exited 0, [], []⟩, f.drop position) := by
  show (match f.position? (Repository.entryName position) with
    | some position => ((⟨.exited 0, [], []⟩ : ToolRun), f.drop position)
    | none => _) = _
  rw [position?_entryName h]

theorem act_saveArgs (label : String) (keepIndex : Bool) (f : Shelf) :
    act (Repository.saveArgs label keepIndex) f
      = (⟨.exited 0, [], []⟩, f.push ("On main: " ++ label)) := by
  cases keepIndex <;> rfl

/-- **A shelf is such a stash as the gate relies on**, whenever others push their entries. -/
theorem repository_keeps (disturbed : List String → Bool) : (repository disturbed).Keeps stash where
  distinct f := f.distinct
  listsIds f := by
    have hleaves : stash.Leaves f (act Repository.idArgs f).2 f.entries := Stash.Grows.refl f
    exact ⟨[], _, leaves_run disturbed hleaves, rfl⟩
  listsSubjects f := by
    have hleaves : stash.Leaves f (act Repository.fullArgs f).2 f.entries := Stash.Grows.refl f
    exact ⟨[], _, leaves_run disturbed hleaves, rfl⟩
  drops f position hlt := by
    have hact := act_dropArgs hlt
    have hleaves : stash.Leaves f (act (Repository.dropArgs position) f).2
        ((stash.entries f).eraseIdx position) := by
      rw [hact]
      exact ⟨[], rfl, rfl⟩
    refine ⟨[], [], _, leaves_run disturbed hleaves, ?_⟩
    exact Prod.ext (congrArg (fun a : ToolRun × Shelf => Except.ok a.1) hact) rfl
  looks f := ⟨rfl, Stash.Grows.refl f⟩
  saves label keepIndex f := by
    refine ⟨some (f.next ("On main: " ++ label)), leaves_run disturbed ?_⟩
    rw [act_saveArgs]
    exact ⟨[], rfl, rfl⟩
  applies frame f := leaves_run disturbed (Stash.Grows.refl f)
  asksCommits f := Stash.Grows.refl f
  asksChanges f := Stash.Grows.refl f
  writes _ f := Stash.Grows.refl f

/-- Where others push nothing behind a save or a listing, the gate is not disturbed. -/
theorem repository_undisturbed {disturbed : List String → Bool}
    (hsaves : ∀ label keepIndex, disturbed (Repository.saveArgs label keepIndex) = false)
    (hlists : disturbed Repository.idArgs = false) : (repository disturbed).Undisturbed stash where
  looking _ := rfl
  saving label keepIndex f := by
    show (if disturbed (Repository.saveArgs label keepIndex) then _ else _ : Shelf).others = _
    rw [if_neg (by rw [hsaves]; exact Bool.false_ne_true), act_saveArgs]
    rfl
  listing f := by
    show (if disturbed Repository.idArgs then _ else _ : Shelf).others = _
    rw [if_neg (by rw [hlists]; exact Bool.false_ne_true)]
    rfl

end Shelf

end LintGate
