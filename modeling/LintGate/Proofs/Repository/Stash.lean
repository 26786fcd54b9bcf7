/-
The stash that the gate shares with others.

A frame is known by the id of its entry, and the tool drops entries by position. So the gate
asks for a listing of the ids first, looks the id up and drops what stands there, and every
entry that goes shifts those below it. This file says what comes of that, in a world in which
others may push entries of their own whenever the tool runs.

`Repository.Keeps` is what the tool does to the stash. It acts at the beginning of a call, and
what others do from then until the next call counts to this one. `Stash.others` tells what they
pushed so far, so that it can be said which entries are theirs. A call that only `Grows` the
stash puts nothing there but what they pushed.

Forgetting a frame removes the entry with its id, wherever it stands, and keeps all others in
order, exactly if nobody pushed an entry between the listing and the drop (`dropFrame_exact_iff`).
The position that was read is that of another entry otherwise, and the frame's own one stays.
-/
import LintGate.Proofs.Repository.Entries

set_option autoImplicit false

namespace LintGate

open StashEntry (ids)

variable {σ : Type}

/-! ## Worlds with a stash -/

/-- The stash of each world, with the newest entry first, and the entries that others pushed so far, in
the same order. -/
structure Stash (σ : Type) where
  entries : σ → List StashEntry
  others : σ → List StashEntry

namespace Stash

variable (stash : Stash σ)

/-- What is left of the stash is `kept`, and on top of it stand the entries that others pushed on the
way. -/
def Leaves (s s' : σ) (kept : List StashEntry) : Prop :=
  ∃ new, stash.others s' = new ++ stash.others s ∧ stash.entries s' = new ++ kept

/-- The stash stays as it is, but for the entries that others pushed on the way. -/
def Grows (s s' : σ) : Prop := stash.Leaves s s' (stash.entries s)

variable {stash} {s u v : σ} {kept : List StashEntry}

theorem Grows.refl (s : σ) : stash.Grows s s := ⟨[], rfl, rfl⟩

/-- What is left may still grow. -/
theorem Leaves.grows (h : stash.Leaves s u kept) (h' : stash.Grows u v) : stash.Leaves s v kept := by
  obtain ⟨new, hothers, hentries⟩ := h
  obtain ⟨more, hothers', hentries'⟩ := h'
  refine ⟨more ++ new, ?_, ?_⟩
  · rw [hothers', hothers, List.append_assoc]
  · rw [hentries', hentries, List.append_assoc]

theorem Grows.trans (h : stash.Grows s u) (h' : stash.Grows u v) : stash.Grows s v :=
  Leaves.grows h h'

/-- Where others pushed nothing, a stash that grows stays as it is. -/
theorem Grows.entries_eq (h : stash.Grows s u) (hquiet : stash.others u = stash.others s) :
    stash.entries u = stash.entries s := by
  obtain ⟨new, hothers, hentries⟩ := h
  rw [hquiet] at hothers
  rw [hentries, List.self_eq_append_left.mp hothers, List.nil_append]

end Stash

/-! ## What the tool does -/

/-- The arguments that list ids. -/
def Repository.idArgs : List String := ["stash", "list", "--format=%H"]

/-- The arguments that list ids with subjects. -/
def Repository.fullArgs : List String := ["stash", "list", "--format=%H %s"]

/-- The arguments that bring the changes of a frame back. -/
def Repository.applyArgs (frame : Frame) : List String :=
  ["stash", "apply", "--index", "--quiet", frame.id]

/-- The arguments that drop the entry at a position. -/
def Repository.dropArgs (position : Nat) : List String :=
  ["stash", "drop", "--quiet", Repository.entryName position]

/-- What a repository does to its stash. Ids are distinct. Listings tell all entries in order, and
dropping removes the entry at a position. A look tells the newest entry, and setting changes aside puts
one entry on top or none. All other calls leave the stash to the others. -/
structure Repository.Keeps (r : Repository σ) (stash : Stash σ) : Prop where
  distinct : ∀ s, (ids (stash.entries s)).Nodup
  listsIds : ∀ s, ∃ err s', stash.Grows s s' ∧
    r.run idArgs s = (.ok ⟨.exited 0, Bytes.ofText (StashEntry.idListing (stash.entries s)), err⟩, s')
  listsSubjects : ∀ s, ∃ err s', stash.Grows s s' ∧
    r.run fullArgs s = (.ok ⟨.exited 0, Bytes.ofText (StashEntry.fullListing (stash.entries s)), err⟩, s')
  drops : ∀ s position, position < (stash.entries s).length →
    ∃ out err s', stash.Leaves s s' ((stash.entries s).eraseIdx position) ∧
      r.run (dropArgs position) s = (.ok ⟨.exited 0, out, err⟩, s')
  looks : ∀ s, (r.stashTop s).1 = .ok (ids (stash.entries s)).head? ∧
    stash.Grows s (r.stashTop s).2
  saves : ∀ label keepIndex s, ∃ made : Option StashEntry,
    stash.Leaves s (r.run (saveArgs label keepIndex) s).2 (made.toList ++ stash.entries s)
  applies : ∀ frame : Frame, ∀ s, stash.Grows s (r.run (applyArgs frame) s).2
  asksCommits : ∀ s, stash.Grows s (r.hasCommits s).2
  asksChanges : ∀ s, stash.Grows s (r.stagedChanges s).2
  writes : ∀ folder s, stash.Grows s (r.place.change folder s)

/-! ## Entries by position and by id -/

namespace StashEntry

variable {entries : List StashEntry} {id : String} {position : Nat}

/-- An id that is there is found. -/
theorem exists_position (h : id ∈ ids entries) : ∃ position, (ids entries).idxOf? id = some position :=
  Option.ne_none_iff_exists'.mp (mt List.idxOf?_eq_none_iff.mp (not_not_intro h))

/-- Where an id was found: nothing in front of that place has it, and, ids being distinct, nothing behind
it either. -/
theorem split_at (hdistinct : (ids entries).Nodup) (h : (ids entries).idxOf? id = some position) :
    ∃ newer e older, entries = newer ++ e :: older ∧ newer.length = position ∧ e.id = id ∧
      ∀ e' ∈ newer ++ older, e'.id ≠ id := by
  obtain ⟨hlt, hid, -⟩ := List.idxOf?_eq_some_iff.mp h
  have hlt' : position < entries.length := by rwa [ids, List.length_map] at hlt
  have hid' : entries[position].id = id := by simpa [ids] using hid
  have hsplit : entries
      = entries.take position ++ entries[position] :: entries.drop (position + 1) := by
    rw [List.getElem_cons_drop, List.take_append_drop]
  refine ⟨_, _, _, hsplit, List.length_take_of_le hlt'.le, hid', fun e' he' hsame => ?_⟩
  -- a second entry with the id would be one too many
  have hperm : (ids entries).Perm
      (entries[position].id :: ids (entries.take position ++ entries.drop (position + 1))) := by
    conv_lhs => rw [hsplit]
    exact (List.perm_middle).map _
  have hnot := (List.nodup_cons.mp (hperm.nodup_iff.mp hdistinct)).1
  rw [hid', ← hsame] at hnot
  exact hnot (List.mem_map_of_mem he')

/-- Dropping what stands where an id was found removes the entry with that id and keeps the others. -/
theorem eraseIdx_eq_filter (hdistinct : (ids entries).Nodup)
    (h : (ids entries).idxOf? id = some position) :
    entries.eraseIdx position = entries.filter fun e => e.id != id := by
  obtain ⟨newer, e, older, rfl, rfl, hid, hothers⟩ := split_at hdistinct h
  have hkept : ∀ part : List StashEntry, (∀ e' ∈ part, e' ∈ newer ++ older) →
      part.filter (fun e => e.id != id) = part := by
    intro part hpart
    exact List.filter_eq_self.mpr fun e' he' => bne_iff_ne.mpr (hothers e' (hpart e' he'))
  rw [List.eraseIdx_append_of_length_le (Nat.le_refl _), Nat.sub_self, List.eraseIdx_zero,
    List.tail_cons, List.filter_append, List.filter_cons, hkept newer (by simp +contextual),
    hkept older (by simp +contextual), if_neg (by simp [hid])]

/-- Entries on top shift what stands below: what is dropped is another entry, and that with the id
stays. -/
theorem mem_eraseIdx_of_shifted (hdistinct : (ids entries).Nodup)
    (h : (ids entries).idxOf? id = some position) {new : List StashEntry} (hnew : new ≠ []) :
    id ∈ ids ((new ++ entries).eraseIdx position) := by
  obtain ⟨newer, e, older, rfl, rfl, rfl, -⟩ := split_at hdistinct h
  have hlt : newer.length < (new ++ newer).length := by
    rw [List.length_append]
    exact Nat.lt_add_of_pos_left (List.length_pos_iff.mpr hnew)
  rw [← List.append_assoc, List.eraseIdx_append_of_lt_length hlt, ids_append]
  exact List.mem_append_right _ List.mem_cons_self

end StashEntry

/-! ## The calls of the gate -/

namespace Repository

variable {r : Repository σ} {stash : Stash σ} {s s' : σ} {args : List String} {operation : String}

/-- The world behind a call of the tool is that behind its run. -/
theorem git_world (r : Repository σ) (operation : String) (args : List String) (s : σ) :
    (r.git operation args s).2 = (r.run args s).2 := by
  unfold git
  rcases hrun : r.run args s with ⟨answer, s'⟩
  simp only [bind, StateT.bind, hrun]
  cases answer with
  | error reason => rfl
  | ok t => dsimp only; split <;> rfl

/-- A run that succeeds answers what it wrote, without blank space at the ends. -/
theorem git_of_run {out err : Bytes} (h : r.run args s = (.ok ⟨.exited 0, out, err⟩, s')) :
    r.git operation args s = (.ok (Text.trim (Bytes.lossyText out)), s') := by
  unfold git
  simp only [bind, StateT.bind, h]
  rfl

/-- The world behind the listing of ids. -/
def listed (r : Repository σ) (s : σ) : σ := (r.run idArgs s).2

/-- How the failure to find an entry is told. -/
def notFound (frame : Frame) : VcsError :=
  ⟨"drop holding frame", "stash entry " ++ frame.id ++ " not found"⟩

namespace Keeps

variable (h : r.Keeps stash)

include h

theorem grows_listed (s : σ) : stash.Grows s (r.listed s) := by
  obtain ⟨err, s', hgrows, hrun⟩ := h.listsIds s
  rw [listed, hrun]
  exact hgrows

theorem git_ids (s : σ) : r.git operation idArgs s
    = (.ok (Text.trim (Bytes.lossyText (Bytes.ofText (StashEntry.idListing (stash.entries s))))),
      r.listed s) := by
  obtain ⟨err, s', -, hrun⟩ := h.listsIds s
  rw [listed, git_of_run hrun, hrun]

/-- A frame without an entry is not forgotten, and nothing is dropped. -/
theorem dropFrame_missing {frame : Frame} (hmissing : frame.id ∉ ids (stash.entries s)) :
    r.dropFrame frame s = (.error (notFound frame), r.listed s) := by
  unfold dropFrame
  simp only [bind, StateT.bind]
  rw [← idArgs, h.git_ids s]
  dsimp only
  rw [StashEntry.shownLines_idListing, List.idxOf?_eq_none_iff.mpr hmissing]
  rfl

/-- A frame with an entry is forgotten: what is dropped stands where the id was listed. -/
theorem dropFrame_found {frame : Frame} {position : Nat}
    (hfound : (ids (stash.entries s)).idxOf? frame.id = some position) :
    ∃ s', r.dropFrame frame s = (.ok (), s') ∧
      stash.Leaves (r.listed s) s' ((stash.entries (r.listed s)).eraseIdx position) := by
  -- the stash may have grown since it was listed, but it has not become shorter
  have hlt : position < (stash.entries (r.listed s)).length := by
    obtain ⟨hlt, -⟩ := List.idxOf?_eq_some_iff.mp hfound
    obtain ⟨new, -, hentries⟩ := h.grows_listed s
    rw [ids, List.length_map] at hlt
    rw [hentries, List.length_append]
    exact Nat.lt_add_left _ hlt
  obtain ⟨out, err, s', hleaves, hrun⟩ := h.drops (r.listed s) position hlt
  refine ⟨s', ?_, hleaves⟩
  unfold dropFrame
  simp only [bind, StateT.bind]
  rw [← idArgs, h.git_ids s]
  dsimp only
  rw [StashEntry.shownLines_idListing, hfound]
  dsimp only
  rw [gitUnit]
  simp only [bind, StateT.bind]
  rw [← dropArgs, git_of_run hrun]
  rfl

/-- **Forgetting a frame removes its own entry and keeps all others, exactly if nobody pushed an entry
behind the listing.** -/
theorem dropFrame_exact_iff {frame : Frame} (hfound : frame.id ∈ ids (stash.entries s)) :
    stash.Leaves s (r.dropFrame frame s).2 ((stash.entries s).filter fun e => e.id != frame.id) ↔
      stash.others (r.listed s) = stash.others s := by
  obtain ⟨position, hposition⟩ := StashEntry.exists_position hfound
  obtain ⟨s', hdrop, more, hothers, hentries⟩ := h.dropFrame_found hposition
  have hgrows := h.grows_listed s
  rw [hdrop]
  constructor
  · -- were anything on top, another entry would have gone, and this one would have stayed
    obtain ⟨new, hothers', hentries'⟩ := hgrows
    rintro ⟨new', hnew', hkept⟩
    by_contra hpushed
    have hnew : new ≠ [] := by
      rintro rfl
      exact hpushed hothers'
    have hsame : new' = more ++ new := by
      rw [hothers, hothers', ← List.append_assoc] at hnew'
      exact (List.append_cancel_right hnew').symm
    rw [hkept, hsame, hentries', List.append_assoc, List.append_cancel_left_eq] at hentries
    have hstays := StashEntry.mem_eraseIdx_of_shifted (h.distinct s) hposition hnew
    rw [← hentries, StashEntry.ids_append, List.mem_append] at hstays
    rcases hstays with hmem | hmem
    · -- others pushed no entry with this id
      have hdistinct := h.distinct (r.listed s)
      rw [hentries', StashEntry.ids_append] at hdistinct
      exact (List.nodup_append.mp hdistinct).2.2 _ hmem _ hfound rfl
    · obtain ⟨e, he, hid⟩ := List.mem_map.mp hmem
      exact bne_iff_ne.mp (List.mem_filter.mp he).2 hid
  · intro hquiet
    refine ⟨more, by rw [hothers, hquiet], ?_⟩
    rw [hentries, hgrows.entries_eq hquiet, StashEntry.eraseIdx_eq_filter (h.distinct s) hposition]

/-- **What forgetting a frame does**: it fails exactly if there is no entry with the frame's id, and then
no entry goes. -/
theorem dropFrame_answer (frame : Frame) (s : σ) :
    (frame.id ∈ ids (stash.entries s) → (r.dropFrame frame s).1 = .ok ()) ∧
    (frame.id ∉ ids (stash.entries s) → (r.dropFrame frame s).1 = .error (notFound frame) ∧
      stash.Grows s (r.dropFrame frame s).2) := by
  constructor
  · intro hfound
    obtain ⟨position, hposition⟩ := StashEntry.exists_position hfound
    obtain ⟨s', hdrop, -⟩ := h.dropFrame_found hposition
    rw [hdrop]
  · intro hmissing
    rw [h.dropFrame_missing hmissing]
    exact ⟨rfl, h.grows_listed s⟩

/-- The frames under labels are those that a listing of all entries tells. -/
theorem heldFrames_eq (labels : List String) (s : σ) :
    (r.heldFrames labels s).1 = .ok (StashEntry.framesRead labels (stash.entries s)) ∧
      stash.Grows s (r.heldFrames labels s).2 := by
  obtain ⟨err, s', hgrows, hrun⟩ := h.listsSubjects s
  have heq : r.heldFrames labels s = (.ok (StashEntry.framesRead labels (stash.entries s)), s') := by
    unfold heldFrames
    simp only [bind, StateT.bind]
    rw [← fullArgs, git_of_run hrun, ← StashEntry.frames_of_fullListing]
    rfl
  rw [heq]
  exact ⟨rfl, hgrows⟩

end Keeps

end Repository

end LintGate
