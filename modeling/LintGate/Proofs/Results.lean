/-
Results by path after any calls.

Results are a plain list, and every operation looks for the first entry of a path: nothing in
the list itself keeps a path from standing there twice. What makes it a mapping is how it came
about, so this file is about histories. `after` is what a list of insertions and removals
leaves, and the three questions one may ask of it are answered by the calls alone:

* what stands under a path: the result of its last insertion, unless it was removed behind that
  (`LastPut`);
* which paths there are: those with an insertion that no removal follows (`Stands`);
* in which order: by the calls that brought them in (`Enters`). A path that is there already
  keeps its place, so this is the first insertion since the last removal.

Each of them has one lemma that adds a call at the end, and the invariants are inductions over
these.
-/
import LintGate.Proofs.Snapshot.Confinement
import Mathlib.Data.List.Induction
import Mathlib.Data.List.Nodup

set_option autoImplicit false

namespace LintGate

namespace Results

/-! ## Single calls -/

theorem paths_insert_eq (m : Results) (path : String) (result : LintResult) :
    (m.insert path result).paths = if path ∈ m.paths then m.paths else m.paths ++ [path] := by
  unfold insert
  by_cases hmem : path ∈ m.paths
  · rw [if_pos (isSome_get?_iff.mpr hmem), if_pos hmem]
    exact map_fst_replace _ _ _
  · rw [if_neg (mt isSome_get?_iff.mp hmem), if_neg hmem]
    exact List.map_append

/-- Removing by position takes out the first entry, and answers what is found there. -/
theorem remove_eq (m : Results) (path : String) : m.remove path = (m.get? path, m.erase path) := by
  obtain ⟨entries⟩ := m
  unfold remove get? erase
  rw [List.eraseP_eq_eraseIdx]
  cases hpos : entries.findIdx? fun e => e.1 == path with
  | none =>
    have hnone : entries.lookup path = none := by
      rw [List.lookup_eq_none_iff]
      intro e he
      rw [bne_comm, bne, List.findIdx?_eq_none_iff.mp hpos e he]
      rfl
    simp only [hnone]
  | some i =>
    obtain ⟨hlt, hi, hbefore⟩ := List.findIdx?_eq_some_iff_getElem.mp hpos
    have hsplit : entries = entries.take i ++ (path, entries[i].2) :: entries.drop (i + 1) := by
      rw [← beq_iff_eq.mp hi, List.getElem_cons_drop]
      exact (List.take_append_drop i entries).symm
    have hlookup : entries.lookup path = some entries[i].2 := by
      refine List.lookup_eq_some_iff.mpr ⟨_, _, hsplit, fun e he => ?_⟩
      obtain ⟨j, hj, rfl⟩ := List.getElem_of_mem he
      rw [List.length_take] at hj
      rw [List.getElem_take, bne_comm, bne, Bool.not_eq_true']
      exact Bool.eq_false_iff.mpr (hbefore j (by omega))
    simp only [hlookup, List.getElem?_eq_getElem hlt, Option.map_some]

/-- Where every path stands once, a path that was removed has nothing, and the others what they had. -/
theorem get?_erase {m : Results} (h : m.paths.Nodup) (path other : String) :
    (m.erase path).get? other = if other = path then none else m.get? other := by
  rw [erase_eq_keep h, get?_keep]
  by_cases hother : other = path
  · simp [hother]
  · simp [hother]

theorem paths_erase {m : Results} (h : m.paths.Nodup) (path : String) :
    (m.erase path).paths = m.paths.filter (· != path) := by
  rw [erase_eq_keep h, paths_keep]

/-! ## Histories -/

/-- A call that changes results. -/
inductive Call where
  | insert (path : String) (result : LintResult)
  | remove (path : String)
deriving DecidableEq

/-- The path that a call is about. -/
def Call.path : Call → String
  | insert path _ => path
  | remove path => path

/-- The results after one more call. -/
def Call.apply (m : Results) : Call → Results
  | insert path result => m.insert path result
  | remove path => (m.remove path).2

/-- What some calls leave, from no results on. -/
def after (calls : List Call) : Results := calls.foldl Call.apply {}

/-- A path was put in, and not removed since. -/
def Stands (calls : List Call) (path : String) : Prop :=
  ∃ front result rest, calls = front ++ .insert path result :: rest ∧ .remove path ∉ rest

/-- A result was the last one to be put under a path, which was not removed since. -/
def LastPut (calls : List Call) (path : String) (result : LintResult) : Prop :=
  ∃ front rest, calls = front ++ .insert path result :: rest ∧ ∀ call ∈ rest, call.path ≠ path

/-- The call at a place brought a path in: the path was not there before, and it was not removed
since. -/
def Enters (calls : List Call) (path : String) (place : Nat) : Prop :=
  ∃ front result rest, calls = front ++ .insert path result :: rest ∧ front.length = place ∧
    ¬Stands front path ∧ .remove path ∉ rest

theorem after_concat (calls : List Call) (call : Call) :
    after (calls ++ [call]) = call.apply (after calls) := by
  rw [after, List.foldl_append]
  rfl

/-! ## One more call -/

/-- Where a list with one more element is cut, the cut is at that element or in the list. -/
theorem concat_eq_append_cons_iff {α : Type} {xs front rest : List α} {x y : α} :
    xs ++ [x] = front ++ y :: rest ↔
      (xs = front ∧ x = y ∧ rest = []) ∨ ∃ more, rest = more ++ [x] ∧ xs = front ++ y :: more := by
  rcases List.eq_nil_or_concat rest with rfl | ⟨more, z, rfl⟩
  · simp
  · rw [List.concat_eq_append, ← List.cons_append, ← List.append_assoc, List.append_singleton_inj]
    constructor
    · rintro ⟨rfl, rfl⟩
      exact .inr ⟨more, rfl, rfl⟩
    · rintro (⟨-, -, hnil⟩ | ⟨more', hmore, rfl⟩)
      · exact absurd hnil (List.append_ne_nil_of_right_ne_nil _ (List.cons_ne_nil _ _))
      · obtain ⟨rfl, rfl⟩ := List.append_singleton_inj.mp hmore
        exact ⟨rfl, rfl⟩

variable {calls : List Call} {call : Call} {path : String} {result : LintResult} {place : Nat}

theorem not_stands_nil : ¬Stands [] path := by
  rintro ⟨front, result, rest, hsplit, -⟩
  exact absurd hsplit.symm (List.append_ne_nil_of_right_ne_nil _ (List.cons_ne_nil _ _))

theorem stands_concat_iff : Stands (calls ++ [call]) path ↔
    (∃ result, call = .insert path result) ∨ (call ≠ .remove path ∧ Stands calls path) := by
  constructor
  · rintro ⟨front, result, rest, hsplit, hrest⟩
    rcases concat_eq_append_cons_iff.mp hsplit with ⟨-, hcall, -⟩ | ⟨more, rfl, rfl⟩
    · exact .inl ⟨result, hcall⟩
    · rw [List.mem_append, List.mem_singleton, not_or] at hrest
      exact .inr ⟨Ne.symm hrest.2, front, result, more, rfl, hrest.1⟩
  · rintro (⟨result, rfl⟩ | ⟨hcall, front, result, rest, rfl, hrest⟩)
    · exact ⟨calls, result, [], rfl, List.not_mem_nil⟩
    · refine ⟨front, result, rest ++ [call], by rw [List.append_assoc, List.cons_append], ?_⟩
      rw [List.mem_append, List.mem_singleton, not_or]
      exact ⟨hrest, Ne.symm hcall⟩

theorem lastPut_concat_iff : LastPut (calls ++ [call]) path result ↔
    call = .insert path result ∨ (call.path ≠ path ∧ LastPut calls path result) := by
  constructor
  · rintro ⟨front, rest, hsplit, hrest⟩
    rcases concat_eq_append_cons_iff.mp hsplit with ⟨-, hcall, -⟩ | ⟨more, rfl, rfl⟩
    · exact .inl hcall
    · rw [List.forall_mem_append, List.forall_mem_singleton] at hrest
      exact .inr ⟨hrest.2, front, more, rfl, hrest.1⟩
  · rintro (rfl | ⟨hcall, front, rest, rfl, hrest⟩)
    · exact ⟨calls, [], rfl, fun _ h => absurd h List.not_mem_nil⟩
    · refine ⟨front, rest ++ [call], by rw [List.append_assoc, List.cons_append], ?_⟩
      rw [List.forall_mem_append, List.forall_mem_singleton]
      exact ⟨hrest, hcall⟩

theorem enters_concat_iff : Enters (calls ++ [call]) path place ↔
    ((∃ result, call = .insert path result) ∧ ¬Stands calls path ∧ calls.length = place) ∨
      (call ≠ .remove path ∧ Enters calls path place) := by
  constructor
  · rintro ⟨front, result, rest, hsplit, hplace, hfront, hrest⟩
    rcases concat_eq_append_cons_iff.mp hsplit with ⟨rfl, hcall, -⟩ | ⟨more, rfl, rfl⟩
    · exact .inl ⟨⟨result, hcall⟩, hfront, hplace⟩
    · rw [List.mem_append, List.mem_singleton, not_or] at hrest
      exact .inr ⟨Ne.symm hrest.2, front, result, more, rfl, hplace, hfront, hrest.1⟩
  · rintro (⟨⟨result, rfl⟩, hnew, hplace⟩ | ⟨hcall, front, result, rest, rfl, hplace, hfront, hrest⟩)
    · exact ⟨calls, result, [], rfl, hplace, hnew, List.not_mem_nil⟩
    · refine ⟨front, result, rest ++ [call], by rw [List.append_assoc, List.cons_append], hplace,
        hfront, ?_⟩
      rw [List.mem_append, List.mem_singleton, not_or]
      exact ⟨hrest, Ne.symm hcall⟩

theorem LastPut.stands (h : LastPut calls path result) : Stands calls path := by
  obtain ⟨front, rest, hsplit, hrest⟩ := h
  exact ⟨front, result, rest, hsplit, fun hremove => hrest _ hremove rfl⟩

theorem Enters.stands (h : Enters calls path place) : Stands calls path := by
  obtain ⟨front, result, rest, hsplit, -, -, hrest⟩ := h
  exact ⟨front, result, rest, hsplit, hrest⟩

theorem Enters.lt_length (h : Enters calls path place) : place < calls.length := by
  obtain ⟨front, result, rest, rfl, rfl, -, -⟩ := h
  rw [List.length_append, List.length_cons]
  omega

/-- A path that was put in and not removed was brought in by some call. -/
theorem Stands.exists_enters (h : Stands calls path) : ∃ place, Enters calls path place := by
  induction calls using List.reverseRecOn with
  | nil => exact absurd h not_stands_nil
  | append_singleton calls call ih =>
    by_cases hold : Stands calls path
    · -- it came in before, and this call does not remove it
      have hcall : call ≠ .remove path := by
        rcases stands_concat_iff.mp h with ⟨result, rfl⟩ | ⟨hcall, -⟩
        · exact Call.noConfusion
        · exact hcall
      obtain ⟨place, hplace⟩ := ih hold
      exact ⟨place, enters_concat_iff.mpr (.inr ⟨hcall, hplace⟩)⟩
    · rcases stands_concat_iff.mp h with hput | ⟨-, hstands⟩
      · exact ⟨calls.length, enters_concat_iff.mpr (.inl ⟨hput, hold, rfl⟩)⟩
      · exact absurd hstands hold

/-! ## What the calls leave -/

theorem nodup_paths_after (calls : List Call) : (after calls).paths.Nodup := by
  induction calls using List.reverseRecOn with
  | nil => exact List.nodup_nil
  | append_singleton calls call ih =>
    rw [after_concat]
    cases call with
    | insert path result =>
      rw [Call.apply, paths_insert_eq]
      split
      · exact ih
      next hnew =>
        rw [← List.concat_eq_append]
        exact List.Nodup.concat hnew ih
    | remove path =>
      rw [Call.apply, remove_eq, paths_erase ih]
      exact ih.filter _

/-- The paths that stand are those that were put in and not removed since. -/
theorem mem_paths_after_iff : path ∈ (after calls).paths ↔ Stands calls path := by
  induction calls using List.reverseRecOn with
  | nil => exact iff_of_false List.not_mem_nil not_stands_nil
  | append_singleton calls call ih =>
    rw [after_concat, stands_concat_iff, ← ih]
    cases call with
    | insert other result =>
      have hput : (∃ r, Call.insert other result = .insert path r) ↔ path = other :=
        ⟨fun ⟨r, h⟩ => (Call.insert.inj h).1.symm, fun h => ⟨result, by rw [h]⟩⟩
      rw [Call.apply, paths_insert_eq, hput]
      split
      next hold =>
        constructor
        · exact fun h => .inr ⟨Call.noConfusion, h⟩
        · rintro (rfl | ⟨-, h⟩)
          · exact hold
          · exact h
      next hnew =>
        rw [List.mem_append, List.mem_singleton, or_comm]
        exact or_congr_right ⟨fun h => ⟨Call.noConfusion, h⟩, And.right⟩
    | remove other =>
      rw [Call.apply, remove_eq, paths_erase (nodup_paths_after calls), List.mem_filter]
      have hput : ¬∃ r, Call.remove other = .insert path r := fun ⟨_, h⟩ => Call.noConfusion h
      rw [or_iff_right hput, and_comm, bne_iff_ne, ne_eq, ne_eq, Call.remove.injEq, eq_comm]

/-- Under a path stands the result that was put there last. -/
theorem get?_after_iff : (after calls).get? path = some result ↔ LastPut calls path result := by
  induction calls using List.reverseRecOn with
  | nil =>
    refine iff_of_false nofun ?_
    rintro ⟨front, rest, hsplit, -⟩
    exact absurd hsplit.symm (List.append_ne_nil_of_right_ne_nil _ (List.cons_ne_nil _ _))
  | append_singleton calls call ih =>
    rw [after_concat, lastPut_concat_iff, ← ih]
    cases call with
    | insert other r =>
      rw [Call.apply, get?_insert, Call.insert.injEq, Call.path]
      by_cases hother : path = other
      · simp [hother]
      · simp [hother, Ne.symm hother]
    | remove other =>
      rw [Call.apply, remove_eq, get?_erase (nodup_paths_after calls), Call.path]
      by_cases hother : path = other
      · simp [hother]
      · simp [hother, Ne.symm hother]

/-- The paths stand in the order in which they came in. -/
theorem paths_after_ordered (calls : List Call) :
    (after calls).paths.Pairwise fun p q =>
      ∀ i j, Enters calls p i → Enters calls q j → i < j := by
  induction calls using List.reverseRecOn with
  | nil => exact List.Pairwise.nil
  | append_singleton calls call ih =>
    -- a path that stood before came in where it came in before
    have hold : ∀ {p : String} {i : Nat}, Stands calls p → Enters (calls ++ [call]) p i →
        Enters calls p i := by
      intro p i hstands henters
      rcases enters_concat_iff.mp henters with ⟨-, hnew, -⟩ | ⟨-, h⟩
      · exact absurd hstands hnew
      · exact h
    have hih : (after calls).paths.Pairwise fun p q =>
        ∀ i j, Enters (calls ++ [call]) p i → Enters (calls ++ [call]) q j → i < j := by
      refine ih.imp_of_mem fun hp hq h i j hi hj => h i j ?_ ?_
      · exact hold (mem_paths_after_iff.mp hp) hi
      · exact hold (mem_paths_after_iff.mp hq) hj
    rw [after_concat]
    cases call with
    | remove path =>
      rw [Call.apply, remove_eq, paths_erase (nodup_paths_after calls)]
      exact hih.filter _
    | insert path result =>
      rw [Call.apply, paths_insert_eq]
      split
      · exact hih
      next hnew =>
        refine List.pairwise_append.mpr ⟨hih, List.pairwise_singleton _ _, ?_⟩
        intro p hp q hq i j hi hj
        -- the new path came in with this call, behind all others
        obtain rfl := List.mem_singleton.mp hq
        have hlt : i < calls.length := (hold (mem_paths_after_iff.mp hp) hi).lt_length
        rcases enters_concat_iff.mp hj with ⟨-, -, rfl⟩ | ⟨-, h⟩
        · exact hlt
        · exact absurd (mem_paths_after_iff.mpr h.stands) hnew

/-! ## The statement -/

/-- **Results are a mapping that keeps the order of insertion**, after every list of calls. No path
stands there twice, and what is met in the order of the paths is what is found under them. Under a path
stands the result that was put there last, or nothing if none was put there since the path was last
removed. The paths stand in the order of the calls that brought them in. So a path that is there keeps
its place when its result is replaced, a new one goes to the end, and so does one that was removed.
Removing a path answers what stood under it, and leaves the results and the order of the others. -/
theorem after_ordered (calls : List Call) :
    (after calls).paths.Nodup ∧
    (∀ path result, (path, result) ∈ (after calls).entries ↔
      (after calls).get? path = some result) ∧
    (∀ path result, (after calls).get? path = some result ↔ LastPut calls path result) ∧
    (∀ path, (after calls).get? path = none ↔ ¬Stands calls path) ∧
    (∀ path, path ∈ (after calls).paths ↔ ∃ place, Enters calls path place) ∧
    ((after calls).paths.Pairwise fun p q =>
      ∀ i j, Enters calls p i → Enters calls q j → i < j) ∧
    (∀ path result, ((after calls).insert path result).paths =
      if path ∈ (after calls).paths then (after calls).paths else (after calls).paths ++ [path]) ∧
    ∀ path,
      (after calls).remove path = ((after calls).get? path, (after calls).erase path) ∧
      (∀ other, ((after calls).remove path).2.get? other
        = if other = path then none else (after calls).get? other) ∧
      ((after calls).remove path).2.paths = (after calls).paths.filter (· != path) ∧
      ∀ result, (((after calls).remove path).2.insert path result).paths
        = (after calls).paths.filter (· != path) ++ [path] := by
  have hnodup := nodup_paths_after calls
  refine ⟨hnodup, ?_, fun _ _ => get?_after_iff, ?_, ?_, paths_after_ordered calls,
    (after calls).paths_insert_eq, ?_⟩
  · intro path result
    refine ⟨get?_of_mem hnodup, fun hget => ?_⟩
    obtain ⟨before, behind, hsplit, -⟩ := entries_split hnodup hget
    rw [hsplit]
    exact List.mem_append_right _ List.mem_cons_self
  · intro path
    rw [← mem_paths_after_iff, ← isSome_get?_iff, Option.not_isSome_iff_eq_none]
  · intro path
    rw [mem_paths_after_iff]
    exact ⟨Stands.exists_enters, fun ⟨_, h⟩ => h.stands⟩
  · intro path
    rw [remove_eq]
    refine ⟨rfl, get?_erase hnodup path, paths_erase hnodup path, fun result => ?_⟩
    rw [paths_insert_eq, paths_erase hnodup, if_neg]
    simp [List.mem_filter]

/-- A path that is put in again keeps its place, and one that was removed goes to the end. -/
example :
    (after [.insert "z.js" {}, .insert "a.js" {}, .insert "z.js" ⟨"again", true⟩]).paths
        = ["z.js", "a.js"] ∧
      (after [.insert "z.js" {}, .insert "a.js" {}, .remove "z.js", .insert "z.js" {}]).paths
        = ["a.js", "z.js"] := by
  decide

end Results

end LintGate
