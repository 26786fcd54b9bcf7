/-
What the hunks of a script show.

A walk passes kept lines, which both sides have in common, and changes, each of which
lists all lines of the new side it passes. So a line that occurs more often in the new
sequence than in the old one is among the added lines of some hunk: where no change
adds it, the walk passes it on the new side only together with the old one.
-/
import LintGate.Diff.Unified
import Mathlib.Data.List.TakeWhile
import LintGate.Proofs.Diff.Compaction

set_option autoImplicit false

namespace LintGate.Diff

variable {a b : Array String} {i j i' j' : Nat} {line : String}

/-! ## Lines of a side -/

theorem linesOf_add (side : Array String) (start m n : Nat) :
    linesOf side start (m + n) = linesOf side start m ++ linesOf side (start + m) n := by
  rw [linesOf, List.take_add, List.drop_drop]
  rfl

/-- The lines between two places are those up to a place between them and those from there on. -/
theorem linesOf_split (side : Array String) {i u i' : Nat} (hfirst : i ≤ u) (hsecond : u ≤ i') :
    linesOf side i (i' - i) = linesOf side i (u - i) ++ linesOf side u (i' - u) := by
  have hlen : i' - i = (u - i) + (i' - u) := by omega
  rw [hlen, linesOf_add, Nat.add_sub_cancel' hfirst]

theorem linesOf_size (side : Array String) : linesOf side 0 side.size = side.toList := by
  rw [linesOf, List.drop_zero, ← Array.length_toList, List.take_length]

@[simp] theorem linesOf_zero (side : Array String) (start : Nat) : linesOf side start 0 = [] := by
  rw [linesOf, List.take_zero]

theorem Agree.linesOf_eq {n : Nat} (h : Agree a b i j n) : linesOf a i n = linesOf b j n := by
  refine List.ext_getElem? fun k => ?_
  simp only [linesOf, List.getElem?_take, List.getElem?_drop, Array.getElem?_toList]
  split
  · exact h k ‹_›
  · rfl

/-! ## Stretches of a walk -/

/-- A walk that keeps everything passes the same lines on both sides. -/
theorem Walk.linesOf_eq {ops : List Op} (h : Walk a b i j ops i' j')
    (hkeep : ∀ op ∈ ops, op.kind = .keep) : linesOf a i (i' - i) = linesOf b j (j' - j) := by
  induction ops generalizing i j with
  | nil =>
    obtain ⟨rfl, rfl⟩ := h
    simp only [Nat.sub_self, linesOf_zero]
  | cons op ops ih =>
    obtain ⟨hfits, hops⟩ := h
    obtain ⟨-, -, hlen, hagree⟩ := (fits_of_keep (hkeep op List.mem_cons_self)).mp hfits
    have hle := hops.le
    have hrest := ih hops fun o ho => hkeep o (List.mem_cons_of_mem _ ho)
    have hi : i' - i = op.oldLen + (i' - (i + op.oldLen)) := by omega
    have hj : j' - j = op.oldLen + (j' - (j + op.newLen)) := by omega
    rw [hi, hj, linesOf_add, linesOf_add, hagree.linesOf_eq, hrest, hlen]

/-- The insertions of a run of removals and insertions. -/
def insertions (run : List Op) : List Op := run.filter (·.kind = .insert)

/-- In a run without kept lines the insertions begin where the run does and cover all it passes. -/
theorem Walk.insertions {run : List Op} (h : Walk a b i j run i' j')
    (hrun : ∀ op ∈ run, op.kind ≠ .keep) :
    j' = j + Op.total (·.newLen) (Diff.insertions run) ∧
      ∀ op ∈ (Diff.insertions run).head?, op.new = j := by
  induction run generalizing i j with
  | nil => exact ⟨h.2.symm, by simp [Diff.insertions]⟩
  | cons op run ih =>
    obtain ⟨hfits, hops⟩ := h
    obtain ⟨htotal, hhead⟩ := ih hops fun o ho => hrun o (List.mem_cons_of_mem _ ho)
    rcases kind_of_ne_keep (hrun op List.mem_cons_self) with hkind | hkind
    · -- a removal passes no new lines
      have hlen := ((fits_of_remove hkind).mp hfits).2
      have hsame : Diff.insertions (op :: run) = Diff.insertions run := by
        simp [Diff.insertions, hkind]
      rw [hlen, Nat.add_zero] at htotal hhead
      rw [hsame]
      exact ⟨htotal, hhead⟩
    · have hnew := ((fits_of_insert hkind).mp hfits).1
      have hcons : Diff.insertions (op :: run) = op :: Diff.insertions run := by
        simp [Diff.insertions, hkind]
      rw [hcons]
      refine ⟨?_, fun o ho => ?_⟩
      · rw [Op.total, List.foldr_cons, ← Nat.add_assoc]
        exact htotal
      · rw [List.head?_cons, Option.mem_some_iff] at ho
        rw [← ho]
        exact hnew

/-- A change takes its place on the new side from the first insertion, if there is one. -/
theorem Change.ofRun_new {run : List Op} {x : Op} (h : (Diff.insertions run).head? = some x) :
    (Change.ofRun run).new = x.new := by
  have h' : (run.filter (·.kind = .insert)).head? = some x := h
  cases hr : (run.filter (·.kind = .remove)).head? <;> simp only [Change.ofRun, h', hr]

/-- A change adds the lines of all insertions. -/
theorem Change.ofRun_newLen (run : List Op) :
    (Change.ofRun run).newLen = Op.total (·.newLen) (Diff.insertions run) := by
  cases hi : (run.filter (·.kind = .insert)).head? with
  | none =>
    have hnil : run.filter (·.kind = .insert) = [] := List.head?_eq_none_iff.mp hi
    rw [Diff.insertions, hnil]
    cases hr : (run.filter (·.kind = .remove)).head? <;> simp only [Change.ofRun, hi, hr] <;> rfl
  | some x =>
    cases hr : (run.filter (·.kind = .remove)).head? <;> simp only [Change.ofRun, hi, hr] <;> rfl

/-- The change of a run lists all new lines that the run passes. -/
theorem Walk.added_eq {run : List Op} (h : Walk a b i j run i' j')
    (hrun : ∀ op ∈ run, op.kind ≠ .keep) :
    linesOf b (Change.ofRun run).new (Change.ofRun run).newLen = linesOf b j (j' - j) := by
  obtain ⟨htotal, hhead⟩ := h.insertions hrun
  have hlen : j' - j = Op.total (·.newLen) (Diff.insertions run) := by omega
  rw [Change.ofRun_newLen, hlen]
  cases hfirst : (Diff.insertions run).head? with
  | none =>
    have hnil : Diff.insertions run = [] := List.head?_eq_none_iff.mp hfirst
    rw [hnil, Op.total, List.foldr_nil, linesOf_zero, linesOf_zero]
  | some x => rw [Change.ofRun_new hfirst, hhead x hfirst]

/-! ## Counting lines -/

/-- The change that a stretch is, if it is one. -/
def Stretch.change? : Stretch → Option Change
  | .equal .. => none
  | .change c => some c

/-- The operations of a run are all of its sort. -/
theorem of_mem_run (sort : Op → Prop) [DecidablePred sort] {op o : Op} {rest : List Op}
    (hop : sort op) (ho : o ∈ op :: rest.takeWhile (sort ·)) : sort o := by
  rcases List.mem_cons.mp ho with rfl | ho
  · exact hop
  · exact of_decide_eq_true (List.mem_takeWhile_imp (p := fun o => decide (sort o)) ho)

/-- A walk goes through the end of the run that it begins with. -/
theorem Walk.behind_run {op : Op} {rest : List Op} (sort : Op → Prop) [DecidablePred sort]
    (h : Walk a b i j (op :: rest) i' j') :
    ∃ u v, Walk a b i j (op :: rest.takeWhile (sort ·)) u v ∧
      Walk a b u v (rest.dropWhile (sort ·)) i' j' := by
  rw [← List.takeWhile_append_dropWhile (p := fun o => decide (sort o)) (l := rest),
    ← List.cons_append, walk_append] at h
  exact h

/-- Where no change adds a line, a walk passes it on the new side at most as often as on the old
one. -/
theorem Walk.count_le {ops : List Op} (line : String) (h : Walk a b i j ops i' j')
    (hnone : ∀ c ∈ (stretches ops).filterMap Stretch.change?, line ∉ linesOf b c.new c.newLen) :
    (linesOf b j (j' - j)).count line ≤ (linesOf a i (i' - i)).count line := by
  fun_induction stretches ops generalizing i j with
  | case1 =>
    obtain ⟨rfl, rfl⟩ := h
    simp only [Nat.sub_self, linesOf_zero, Nat.le_refl]
  | case2 op rest hop ih =>
    -- kept lines are the same on both sides
    obtain ⟨u, v, hkept, hrest⟩ := h.behind_run (·.kind = .keep)
    have heq := hkept.linesOf_eq fun o ho => of_mem_run (·.kind = .keep) hop ho
    have hle := ih hrest fun c hc => hnone c hc
    rw [linesOf_split a hkept.le.1 hrest.le.1, linesOf_split b hkept.le.2 hrest.le.2, heq,
      List.count_append, List.count_append]
    omega
  | case3 op rest hop ih =>
    -- the added lines of a change are all it passes on the new side
    obtain ⟨u, v, hrun, hrest⟩ := h.behind_run (·.kind ≠ .keep)
    have hnot := hnone _ List.mem_cons_self
    rw [hrun.added_eq fun o ho => of_mem_run (·.kind ≠ .keep) hop ho] at hnot
    have hzero := List.count_eq_zero.mpr hnot
    have hle := ih hrest fun c hc => hnone c (List.mem_cons_of_mem _ hc)
    rw [linesOf_split a hrun.le.1 hrest.le.1, linesOf_split b hrun.le.2 hrest.le.2,
      List.count_append, List.count_append]
    omega

/-- The hunks of some stretches are their changes, in order. -/
theorem hunksAfter_change (previous : Option Stretch) (ss : List Stretch) :
    (hunksAfter previous ss).map (·.change) = ss.filterMap Stretch.change? := by
  induction ss generalizing previous with
  | nil => rfl
  | cons stretch rest ih =>
    cases stretch with
    | equal old new len => exact ih _
    | change c => exact congrArg (c :: ·) (ih _)

/-- **A line that occurs more often in the new sequence is added by a hunk.** -/
theorem exists_hunk_of_count_lt {old new : Array String}
    (h : old.toList.count line < new.toList.count line) :
    ∃ hunk ∈ hunksBetween old new, line ∈ linesOf new hunk.change.new hunk.change.newLen := by
  by_contra hnone
  have hwalk := compact_walk (script_walk old new)
  have hle := hwalk.count_le line fun c hc => by
    rw [← hunksAfter_change none, List.mem_map] at hc
    obtain ⟨hunk, hhunk, rfl⟩ := hc
    exact fun hline => hnone ⟨hunk, hhunk, hline⟩
  rw [Nat.sub_zero, Nat.sub_zero, linesOf_size, linesOf_size] at hle
  omega

/-- A script without changes keeps everything. -/
theorem keep_of_no_change {ops : List Op} (h : (stretches ops).filterMap Stretch.change? = []) :
    ∀ op ∈ ops, op.kind = .keep := by
  fun_induction stretches ops with
  | case1 => exact fun op hop => absurd hop List.not_mem_nil
  | case2 op rest hop ih =>
    intro o ho
    rw [← List.takeWhile_append_dropWhile (p := (·.kind = .keep)) (l := rest), ← List.cons_append]
      at ho
    rcases List.mem_append.mp ho with ho | ho
    · exact of_mem_run (·.kind = .keep) hop ho
    · exact ih h o ho
  | case3 => cases h

/-- **Sequences without hunks between them are the same.** -/
theorem eq_of_hunksBetween_eq_nil {old new : Array String} (h : hunksBetween old new = []) :
    old = new := by
  have hnone : (stretches (compact old new (script old new))).filterMap Stretch.change? = [] := by
    rw [← hunksAfter_change none]
    exact congrArg (List.map Hunk.change) h
  have hsame := (compact_walk (script_walk old new)).linesOf_eq (keep_of_no_change hnone)
  rw [Nat.sub_zero, Nat.sub_zero, linesOf_size, linesOf_size] at hsame
  exact Array.toList_inj.mp hsame

end LintGate.Diff
