/-
Deleting lines greedily.

Some lines can be had from others by deletions alone if they are a sublist. A search for them goes
through both lists from the front: it keeps lines as long as they agree, and deletes an old one
where they do not. `Reach` says how many old lines such a search has passed after a number of
deletions, and `Reach.next` that its way of going on takes it as far as any other way would:
whoever got further would have been as far with a deletion less.

`Enters` is the moment in between, behind a deletion and in front of the lines kept next. The
search for the middle of an edit path stops there when it meets the search from the other end,
and `Enters.split` says that it divides both lists there into parts that deletions still lead from
one to the other.
-/
import LintGate.Diff.Middle
import Mathlib.Data.List.Basic

set_option autoImplicit false

namespace LintGate.Diff

variable {α : Type} {as bs : List α} {d e x y run : Nat}

/-! ## Beginnings that deletions lead to -/

/-- The first `y` new lines can be had from the first `x` old ones by deleting lines. -/
def Deletes (as bs : List α) (x y : Nat) : Prop := (bs.take y).Sublist (as.take x)

theorem Deletes.le (h : Deletes as bs x y) (hy : y ≤ bs.length) : y ≤ x := by
  have hlen := h.length_le
  rw [List.length_take, List.length_take] at hlen
  omega

theorem Deletes.delete (h : Deletes as bs x y) : Deletes as bs (x + 1) y :=
  h.trans (List.take_sublist_take_left (Nat.le_succ x))

/-- Lines that agree may follow. -/
theorem Deletes.keep (h : Deletes as bs x y) (hsame : as[x]? = bs[y]?) :
    Deletes as bs (x + 1) (y + 1) := by
  rw [Deletes, List.take_add_one, List.take_add_one, hsame]
  exact h.append_right _

theorem Deletes.keep_run (h : Deletes as bs x y) (hsame : ∀ k < run, as[x + k]? = bs[y + k]?) :
    Deletes as bs (x + run) (y + run) := by
  induction run with
  | zero => exact h
  | succ run ih => exact (ih fun k hk => hsame k (by omega)).keep (hsame run (by omega))

/-- The last lines of both may be left out. Where they differ, the old one is deleted. -/
theorem sublist_of_concat {xs ys : List α} {a b : α} (h : (ys ++ [b]).Sublist (xs ++ [a])) :
    ys.Sublist xs ∧ (b ≠ a → (ys ++ [b]).Sublist xs) := by
  have hrev := List.reverse_sublist.mpr h
  rw [List.reverse_append, List.reverse_append, List.reverse_singleton, List.reverse_singleton,
    List.singleton_append, List.singleton_append, List.cons_sublist_cons'] at hrev
  have hwhole : (b :: ys.reverse).Sublist xs.reverse → (ys ++ [b]).Sublist xs := by
    intro hsub
    rw [← List.reverse_sublist, List.reverse_append]
    exact hsub
  rcases hrev with hsub | ⟨rfl, hsub⟩
  · exact ⟨(List.sublist_append_left ys [b]).trans (hwhole hsub), fun _ => hwhole hsub⟩
  · exact ⟨List.reverse_sublist.mp hsub, fun hne => absurd rfl hne⟩

theorem Deletes.back (hx : x < as.length) (hy : y < bs.length) (h : Deletes as bs (x + 1) (y + 1)) :
    Deletes as bs x y := by
  rw [Deletes, List.take_add_one, List.take_add_one, List.getElem?_eq_getElem hx,
    List.getElem?_eq_getElem hy] at h
  exact (sublist_of_concat h).1

theorem Deletes.back_run (hx : x + run ≤ as.length) (hy : y + run ≤ bs.length)
    (h : Deletes as bs (x + run) (y + run)) : Deletes as bs x y := by
  induction run with
  | zero => exact h
  | succ run ih => exact ih (by omega) (by omega) (h.back (by omega) (by omega))

theorem Deletes.skip (hx : x < as.length) (hy : y < bs.length) (hdiffer : as[x]? ≠ bs[y]?)
    (h : Deletes as bs (x + 1) (y + 1)) : Deletes as bs x (y + 1) := by
  rw [List.getElem?_eq_getElem hx, List.getElem?_eq_getElem hy, Ne, Option.some_inj] at hdiffer
  rw [Deletes, List.take_add_one, List.take_add_one, List.getElem?_eq_getElem hx,
    List.getElem?_eq_getElem hy] at h
  rw [Deletes, List.take_add_one, List.getElem?_eq_getElem hy]
  exact (sublist_of_concat h).2 (Ne.symm hdiffer)

/-- Ends that deletions lead to are beginnings of the reversed lists. -/
theorem deletes_reverse (hx : x ≤ as.length) (hy : y ≤ bs.length) :
    Deletes as.reverse bs.reverse (as.length - x) (bs.length - y) ↔
      (bs.drop y).Sublist (as.drop x) := by
  rw [Deletes, List.take_reverse, List.take_reverse, List.reverse_sublist, Nat.sub_sub_self hx,
    Nat.sub_sub_self hy]

/-- Lists that deletions lead from one to the other can be divided behind any of the deletions. -/
theorem exists_divide (h : bs.Sublist as) (hd : d + bs.length ≤ as.length) :
    ∃ y, y ≤ bs.length ∧ y + d ≤ as.length ∧ Deletes as bs (y + d) y ∧
      (bs.drop y).Sublist (as.drop (y + d)) := by
  induction h generalizing d with
  | slnil =>
    refine ⟨0, Nat.zero_le _, ?_, List.nil_sublist _, List.nil_sublist _⟩
    rwa [Nat.zero_add]
  | @cons bs as a h ih =>
    cases d with
    | zero => exact ⟨0, Nat.zero_le _, Nat.zero_le _, List.nil_sublist _, h.cons a⟩
    | succ d =>
      rw [List.length_cons] at hd
      obtain ⟨y, hy, hle, hfront, hback⟩ := ih (d := d) (by omega)
      refine ⟨y, hy, ?_, hfront.cons a, hback⟩
      rw [List.length_cons]
      omega
  | @cons_cons bs as a h ih =>
    cases d with
    | zero => exact ⟨0, Nat.zero_le _, Nat.zero_le _, List.nil_sublist _, h.cons_cons a⟩
    | succ d =>
      rw [List.length_cons, List.length_cons] at hd
      obtain ⟨y, hy, hle, hfront, hback⟩ := ih (d := d + 1) (by omega)
      have hplace : y + 1 + (d + 1) = y + (d + 1) + 1 := by omega
      refine ⟨y + 1, Nat.succ_le_succ hy, ?_, ?_, ?_⟩
      · rw [List.length_cons]
        omega
      · rw [hplace]
        exact hfront.cons_cons a
      · rw [hplace]
        exact hback

/-! ## A greedy search -/

/-- The run of lines that agree from `x` and `y` on, as long as it goes. -/
structure Runs (as bs : List α) (x y run : Nat) : Prop where
  same : ∀ k < run, as[x + k]? = bs[y + k]?
  old_le : x + run ≤ as.length
  new_le : y + run ≤ bs.length
  stops : x + run < as.length → y + run < bs.length → as[x + run]? ≠ bs[y + run]?

/-- A search with `d` deletions stands in front of the old line `x`, behind the last deletion. Any way
that has one deletion less has not passed that line. -/
structure Enters (as bs : List α) (d x : Nat) : Prop where
  old_le : x ≤ as.length
  ge : d ≤ x
  new_le : x ≤ bs.length + d
  deletes : Deletes as bs x (x - d)
  last : 0 < d → Deletes as bs (x - 1) (x - d)
  ahead : ∀ x', x' < as.length → d ≤ x' + 1 → x' < bs.length + d → Deletes as bs x' (x' + 1 - d) → x' < x

/-- It has passed `x` old lines with `d` deletions, as many as can be. -/
structure Reach (as bs : List α) (d x : Nat) : Prop where
  old_le : x ≤ as.length
  ge : d ≤ x
  new_le : x ≤ bs.length + d
  deletes : Deletes as bs x (x - d)
  furthest : ∀ x', x' ≤ as.length → d ≤ x' → x' ≤ bs.length + d → Deletes as bs x' (x' - d) → x' ≤ x

/-- At first nothing is passed. -/
theorem enters_zero (as bs : List α) : Enters as bs 0 0 where
  old_le := Nat.zero_le _
  ge := Nat.le_refl _
  new_le := Nat.zero_le _
  deletes := List.nil_sublist _
  last h := absurd h (Nat.lt_irrefl 0)
  ahead x' _ _ hnew h := by
    have hle := h.le (by omega)
    omega

/-- **Keeping lines as long as they agree takes the search as far as it can come.** -/
theorem Enters.reach (h : Enters as bs d x) (hrun : Runs as bs x (x - d) run) :
    Reach as bs d (x + run) := by
  have hge := h.ge
  have hnew := hrun.new_le
  have hplace : x + run - d = x - d + run := by omega
  refine ⟨hrun.old_le, by omega, by omega, ?_, fun x' hold hge' hle hdeletes => ?_⟩
  · rw [hplace]
    exact h.deletes.keep_run hrun.same
  by_contra hlt
  -- one line further the last lines differ, and the old one is deleted for nothing
  have hback : Deletes as bs (x + run + 1) (x - d + run + 1) := by
    obtain ⟨n, rfl⟩ : ∃ n, x' = x + run + 1 + n := Nat.exists_eq_add_of_le (by omega)
    have hplace' : x + run + 1 + n - d = x - d + run + 1 + n := by omega
    rw [hplace'] at hdeletes
    exact hdeletes.back_run (by omega) (by omega)
  have hskip := hback.skip (by omega) (by omega) (hrun.stops (by omega) (by omega))
  have hplace' : x - d + run + 1 = x + run + 1 - d := by omega
  rw [hplace'] at hskip
  have hahead := h.ahead (x + run) (by omega) (by omega) (by omega) hskip
  omega

/-- Where it stands behind a deletion it has come as far as it could without that deletion. -/
theorem Enters.reach_before (h : Enters as bs (d + 1) x) (hd : bs.length + d < as.length) :
    Reach as bs d (x - 1) := by
  have hold := h.old_le
  have hge := h.ge
  have hnew := h.new_le
  have hplace : x - 1 - d = x - (d + 1) := by omega
  refine ⟨by omega, by omega, by omega, ?_, fun x' _ hge' hle hdeletes => ?_⟩
  · rw [hplace]
    exact h.last (Nat.succ_pos d)
  · have hplace' : x' - d = x' + 1 - (d + 1) := by omega
    rw [hplace'] at hdeletes
    have hlt := h.ahead x' (by omega) (by omega) (by omega) hdeletes
    omega

/-- Then the next line is deleted. -/
theorem Reach.next (h : Reach as bs d x) (hd : bs.length + d < as.length) :
    Enters as bs (d + 1) (x + 1) := by
  have hge := h.ge
  have hnew := h.new_le
  have hplace : x + 1 - (d + 1) = x - d := by omega
  refine ⟨by omega, by omega, by omega, ?_, fun _ => ?_, fun x' hold hge' hle hdeletes => ?_⟩
  · rw [hplace]
    exact h.deletes.delete
  · rw [hplace]
    exact h.deletes
  · have hplace' : x' + 1 - (d + 1) = x' - d := by omega
    rw [hplace'] at hdeletes
    have hle' := h.furthest x' (by omega) (by omega) (by omega) hdeletes
    omega

/-! ## Where two searches meet -/

/-- Both lists are divided into parts that deletions lead from one to the other. -/
structure Divides (as bs : List α) (x y : Nat) : Prop where
  old_le : x ≤ as.length
  new_le : y ≤ bs.length
  front : Deletes as bs x y
  back : (bs.drop y).Sublist (as.drop x)

variable {d' x' : Nat}

/-- **Searches from both ends meet**, when together they have all deletions. -/
theorem Reach.meet (hsub : bs.Sublist as) (hd : bs.length + d + d' = as.length)
    (h : Reach as bs d x) (h' : Reach as.reverse bs.reverse d' x') : as.length ≤ x + x' := by
  obtain ⟨y, hy, hle, hfront, hback⟩ := exists_divide hsub (d := d) (by omega)
  have hx : y + d ≤ x := h.furthest _ hle (by omega) (by omega) (by rwa [Nat.add_sub_cancel])
  have hplace : as.length - (y + d) - d' = bs.length - y := by omega
  have hx' : as.length - (y + d) ≤ x' := by
    refine h'.furthest _ ?_ (by omega) ?_ ?_
    · rw [List.length_reverse]
      omega
    · rw [List.length_reverse]
      omega
    · rw [hplace]
      exact (deletes_reverse hle hy).mpr hback
  omega

/-- What the search from the end has passed, seen from the front. -/
theorem Reach.back (hd : bs.length + d + d' = as.length) (h' : Reach as.reverse bs.reverse d' x') :
    (bs.drop (as.length - x' - d)).Sublist (as.drop (as.length - x')) := by
  have hold := h'.old_le
  have hnew := h'.new_le
  have hge := h'.ge
  rw [List.length_reverse] at hold hnew
  refine (deletes_reverse (Nat.sub_le _ _) (by omega)).mp ?_
  have hplace : as.length - (as.length - x') = x' := by omega
  have hplace' : bs.length - (as.length - x' - d) = x' - d' := by omega
  rw [hplace, hplace']
  exact h'.deletes

/-- **Where the search from the end meets the one from the front both lists are divided.** -/
theorem Reach.divide (hd : bs.length + d + d' = as.length) (h : Reach as bs d x)
    (h' : Reach as.reverse bs.reverse d' x') (hmeet : as.length ≤ x + x') :
    Divides as bs (as.length - x') (as.length - x' - d) := by
  have hold := h'.old_le
  have hnew := h'.new_le
  have hge' := h'.ge
  have hge := h.ge
  have hle := h.old_le
  have hle' := h.new_le
  rw [List.length_reverse] at hold hnew
  refine ⟨Nat.sub_le _ _, by omega, ?_, h'.back hd⟩
  obtain ⟨n, hn⟩ : ∃ n, x = as.length - x' + n := Nat.exists_eq_add_of_le (by omega)
  have hplace : x - d = as.length - x' - d + n := by omega
  have hdeletes := h.deletes
  rw [hplace, hn] at hdeletes
  exact hdeletes.back_run (by omega) (by omega)

/-- **Where the search from the front meets the one from the end, both lists are divided behind the
deletion** with which it got there. -/
theorem Enters.divide (hd : bs.length + d + d' = as.length) (h : Enters as bs d x)
    (hrun : Runs as bs x (x - d) run) (h' : Reach as.reverse bs.reverse d' x')
    (hmeet : as.length ≤ x + run + x') : Divides as bs x (x - d) := by
  have hge := h.ge
  have hge' := h'.ge
  have hold := h'.old_le
  have hnew := h'.new_le
  have hrunOld := hrun.old_le
  have hrunNew := hrun.new_le
  rw [List.length_reverse] at hold hnew
  refine ⟨h.old_le, by omega, h.deletes, ?_⟩
  -- behind the run that the search keeps next, and so in front of it
  have hbehind : (bs.drop (x - d + run)).Sublist (as.drop (x + run)) := by
    obtain ⟨n, hn⟩ : ∃ n, x + run = as.length - x' + n := Nat.exists_eq_add_of_le (by omega)
    have hplace : x - d + run = as.length - x' - d + n := by omega
    rw [hplace, hn, ← List.drop_drop, ← List.drop_drop]
    exact (h'.back hd).drop n
  have hkept : (bs.drop (x - d)).take run = (as.drop x).take run := by
    refine List.ext_getElem? fun k => ?_
    rw [List.getElem?_take, List.getElem?_take, List.getElem?_drop, List.getElem?_drop]
    split
    · exact (hrun.same k ‹_›).symm
    · rfl
  rw [← List.take_append_drop run (bs.drop (x - d)), ← List.take_append_drop run (as.drop x),
    List.drop_drop, List.drop_drop, hkept]
  exact hbehind.append_left _

end LintGate.Diff
