/-
What matching finds.

A pattern is matched by sets of places: from a set of starts `Expr.ends` works out the set
of ends, and a repetition without a bound is the closure of that step. What a pattern means
is said more simply, of one start and one end: `Expr.Spans` is a relation by recursion on
the expression, with a number of repetitions that nobody has to find. This file proves that
both are the same (`Expr.ends_takes`), so that a statement about a matcher is one about
the relation.

All that needs an argument is the closure. It runs for as many rounds as there are places.
Each round either finds nothing new, and then nothing leads out of what was found, or finds
a place more; so when the rounds are used up there is no place left to find. `Explored` is
what holds between two rounds.
-/
import LintGate.Pattern.Matching
import Mathlib.Data.Finset.Card

set_option autoImplicit false

namespace LintGate.Pattern

/-! ## Repeated steps -/

/-- So many steps, one after the other. -/
def Times (R : Nat → Nat → Prop) : Nat → Nat → Nat → Prop
  | 0, i, j => j = i
  | n + 1, i, j => ∃ k, R i k ∧ Times R n k j

variable {R : Nat → Nat → Prop} {i j k m n : Nat}

theorem times_add : Times R (m + n) i j ↔ ∃ k, Times R m i k ∧ Times R n k j := by
  induction m generalizing i with
  | zero =>
    rw [Nat.zero_add]
    constructor
    · intro h
      exact ⟨i, rfl, h⟩
    · rintro ⟨k, rfl, h⟩
      exact h
  | succ m ih =>
    rw [Nat.succ_add]
    constructor
    · rintro ⟨u, hstep, h⟩
      obtain ⟨k, hfront, hback⟩ := ih.mp h
      exact ⟨k, ⟨u, hstep, hfront⟩, hback⟩
    · rintro ⟨k, ⟨u, hstep, hfront⟩, hback⟩
      exact ⟨u, hstep, ih.mpr ⟨k, hfront, hback⟩⟩

/-- What every step keeps, all of them keep. -/
theorem Times.keeps {P : Nat → Prop} (hR : ∀ i j, R i j → P i → P j) (h : Times R n i j) (hi : P i) :
    P j := by
  induction n generalizing i with
  | zero =>
    rw [show j = i from h]
    exact hi
  | succ n ih =>
    obtain ⟨k, hstep, h⟩ := h
    exact ih h (hR i k hstep hi)

/-! ## Steps on sets of places -/

/-- No step leads out of the places up to `size`. -/
def Inside (size : Nat) (R : Nat → Nat → Prop) : Prop := ∀ i j, R i j → i ≤ size → j ≤ size

/-- The places are all up to `size`. -/
def Within (size : Nat) (places : List Nat) : Prop := ∀ i ∈ places, i ≤ size

/-- A function on sets of places takes every step from each of them. -/
def Takes (size : Nat) (R : Nat → Nat → Prop) (step : List Nat → List Nat) : Prop :=
  ∀ places, Within size places → ∀ j, j ∈ step places ↔ ∃ i ∈ places, R i j

variable {size left : Nat} {step : List Nat → List Nat} {places seen frontier : List Nat}

theorem Inside.times (h : Inside size R) : Inside size (Times R n) := by
  intro i j htimes hi
  exact htimes.keeps (P := fun k => k ≤ size) h hi

theorem Takes.within (h : Takes size R step) (hR : Inside size R) (hplaces : Within size places) :
    Within size (step places) := by
  intro j hj
  obtain ⟨i, hi, hstep⟩ := (h places hplaces j).mp hj
  exact hR i j hstep (hplaces i hi)

theorem mem_merge {extra : List Nat} : i ∈ merge seen extra ↔ i ∈ seen ∨ i ∈ extra := by
  unfold merge
  induction extra generalizing seen with
  | nil => simp
  | cons e extra ih =>
    rw [List.foldl_cons, ih]
    by_cases he : seen.contains e = true
    · rw [if_pos he]
      rw [List.contains_iff_mem] at he
      constructor
      · intro h
        exact h.imp_right (List.mem_cons_of_mem e)
      · rintro (h | h)
        · exact .inl h
        · rcases List.mem_cons.mp h with rfl | h
          · exact .inl he
          · exact .inr h
    · rw [if_neg he, List.mem_cons, List.mem_cons, or_assoc, or_left_comm]

theorem mem_iterate (h : Takes size R step) (hR : Inside size R) (hplaces : Within size places) :
    j ∈ iterate step n places ↔ ∃ i ∈ places, Times R n i j := by
  induction n generalizing places with
  | zero =>
    show j ∈ places ↔ ∃ i ∈ places, j = i
    simp
  | succ n ih =>
    rw [iterate]
    by_cases hnone : places.isEmpty = true
    · rw [if_pos hnone, List.isEmpty_iff.mp hnone]
      simp
    rw [if_neg hnone, ih (h.within hR hplaces)]
    constructor
    · rintro ⟨k, hk, htimes⟩
      obtain ⟨i, hi, hstep⟩ := (h places hplaces k).mp hk
      exact ⟨i, hi, k, hstep, htimes⟩
    · rintro ⟨i, hi, k, hstep, htimes⟩
      exact ⟨k, (h places hplaces k).mpr ⟨i, hi, hstep⟩, htimes⟩

theorem mem_iterateUpTo (h : Takes size R step) (hR : Inside size R) (hplaces : Within size places) :
    j ∈ iterateUpTo step n places ↔ ∃ m ≤ n, ∃ i ∈ places, Times R m i j := by
  induction n generalizing places with
  | zero =>
    show j ∈ places ↔ _
    simp [Times]
  | succ n ih =>
    rw [iterateUpTo]
    by_cases hnone : places.isEmpty = true
    · rw [if_pos hnone, List.isEmpty_iff.mp hnone]
      simp
    rw [if_neg hnone, mem_merge, ih (h.within hR hplaces)]
    constructor
    · rintro (hj | ⟨m, hm, k, hk, htimes⟩)
      · exact ⟨0, Nat.zero_le _, j, hj, rfl⟩
      · obtain ⟨i, hi, hstep⟩ := (h places hplaces k).mp hk
        exact ⟨m + 1, Nat.succ_le_succ hm, i, hi, k, hstep, htimes⟩
    · rintro ⟨m, hm, i, hi, htimes⟩
      cases m with
      | zero =>
        rw [show j = i from htimes]
        exact .inl hi
      | succ m =>
        obtain ⟨k, hstep, htimes⟩ := htimes
        exact .inr ⟨m, Nat.le_of_succ_le_succ hm, k, (h places hplaces k).mpr ⟨i, hi, hstep⟩, htimes⟩

/-! ## The closure of a step -/

/-- What holds between two rounds: of the places that were found, only those of the frontier can lead
to one that was not. -/
structure Explored (size : Nat) (R : Nat → Nat → Prop) (seen frontier : List Nat) : Prop where
  within : Within size seen
  frontier_seen : ∀ i ∈ frontier, i ∈ seen
  settled : ∀ i ∈ seen, i ∉ frontier → ∀ j, R i j → j ∈ seen

/-- The places that a round finds. -/
def found (step : List Nat → List Nat) (seen frontier : List Nat) : List Nat :=
  (step frontier).filter fun i => !seen.contains i

theorem closure_succ (step : List Nat → List Nat) (left : Nat) (seen frontier : List Nat) :
    closure step (left + 1) seen frontier =
      if (found step seen frontier).isEmpty then seen
      else closure step left (merge seen (found step seen frontier)) (found step seen frontier) := rfl

theorem Explored.mem_found (h : Explored size R seen frontier) (hstep : Takes size R step) :
    j ∈ found step seen frontier ↔ (∃ i ∈ frontier, R i j) ∧ j ∉ seen := by
  have hwithin : Within size frontier := fun i hi => h.within i (h.frontier_seen i hi)
  rw [found, List.mem_filter, hstep frontier hwithin]
  simp

/-- A step from what was found leads to what was found, before the round or in it. -/
theorem Explored.seen_or_found (h : Explored size R seen frontier) (hstep : Takes size R step)
    (hi : i ∈ seen) (hij : R i j) : j ∈ seen ∨ j ∈ found step seen frontier := by
  by_cases hj : j ∈ seen
  · exact .inl hj
  by_cases hfrontier : i ∈ frontier
  · exact .inr ((h.mem_found hstep).mpr ⟨⟨i, hfrontier, hij⟩, hj⟩)
  · exact .inl (h.settled i hi hfrontier j hij)

theorem Explored.next (h : Explored size R seen frontier) (hstep : Takes size R step)
    (hR : Inside size R) :
    Explored size R (merge seen (found step seen frontier)) (found step seen frontier) := by
  constructor
  · intro i hi
    rcases mem_merge.mp hi with hi | hi
    · exact h.within i hi
    · obtain ⟨⟨k, hk, hki⟩, -⟩ := (h.mem_found hstep).mp hi
      exact hR k i hki (h.within k (h.frontier_seen k hk))
  · intro i hi
    exact mem_merge.mpr (.inr hi)
  · intro i hi hnew j hij
    have hseen : i ∈ seen := (mem_merge.mp hi).resolve_right hnew
    exact mem_merge.mpr (h.seen_or_found hstep hseen hij)

theorem subset_closure (hi : i ∈ seen) : i ∈ closure step left seen frontier := by
  induction left generalizing seen frontier with
  | zero => exact hi
  | succ left ih =>
    rw [closure_succ]
    by_cases hnone : (found step seen frontier).isEmpty = true
    · rw [if_pos hnone]
      exact hi
    · rw [if_neg hnone]
      exact ih (mem_merge.mpr (.inl hi))

/-- Places up to `size` that are more than `size` are all. -/
theorem mem_of_card (hwithin : Within size seen) (hcard : size + 1 ≤ seen.toFinset.card)
    (hi : i ≤ size) : i ∈ seen := by
  have hsub : seen.toFinset ⊆ Finset.range (size + 1) := by
    intro k hk
    rw [Finset.mem_range]
    exact Nat.lt_succ_of_le (hwithin k (List.mem_toFinset.mp hk))
  have hall : seen.toFinset = Finset.range (size + 1) := by
    apply Finset.eq_of_subset_of_card_le hsub
    rw [Finset.card_range]
    exact hcard
  rw [← List.mem_toFinset, hall, Finset.mem_range]
  exact Nat.lt_succ_of_le hi

/-- A round that finds something finds at least one place more. -/
theorem Explored.card_lt (h : Explored size R seen frontier) (hstep : Takes size R step)
    (hsome : ¬(found step seen frontier).isEmpty = true) :
    seen.toFinset.card < (merge seen (found step seen frontier)).toFinset.card := by
  obtain ⟨k, hk⟩ := List.exists_mem_of_ne_nil _ (mt List.isEmpty_iff.mpr hsome)
  apply Finset.card_lt_card
  rw [Finset.ssubset_iff_of_subset]
  · refine ⟨k, ?_, ?_⟩
    · exact List.mem_toFinset.mpr (mem_merge.mpr (.inr hk))
    · rw [List.mem_toFinset]
      exact ((h.mem_found hstep).mp hk).2
  · intro i hi
    exact List.mem_toFinset.mpr (mem_merge.mpr (.inl (List.mem_toFinset.mp hi)))

/-- **Nothing leads out of a closure**, if there are as many rounds as places that can still be found. -/
theorem Explored.closed (h : Explored size R seen frontier) (hstep : Takes size R step)
    (hR : Inside size R) (hleft : size + 1 ≤ left + seen.toFinset.card)
    (hi : i ∈ closure step left seen frontier) (hij : R i j) : j ∈ closure step left seen frontier := by
  induction left generalizing seen frontier with
  | zero =>
    rw [Nat.zero_add] at hleft
    exact mem_of_card h.within hleft (hR i j hij (h.within i hi))
  | succ left ih =>
    rw [closure_succ] at hi ⊢
    by_cases hnone : (found step seen frontier).isEmpty = true
    · rw [if_pos hnone] at hi ⊢
      apply (h.seen_or_found hstep hi hij).resolve_right
      rw [List.isEmpty_iff.mp hnone]
      exact List.not_mem_nil
    · rw [if_neg hnone] at hi ⊢
      apply ih (h.next hstep hR) _ hi
      have hmore := h.card_lt hstep hnone
      omega

/-- Whatever a closure holds is reached from the places it began with. -/
theorem Explored.reached (h : Explored size R seen frontier) (hstep : Takes size R step)
    (hR : Inside size R) (hj : j ∈ closure step left seen frontier) :
    ∃ i ∈ seen, ∃ m, Times R m i j := by
  induction left generalizing seen frontier with
  | zero => exact ⟨j, hj, 0, rfl⟩
  | succ left ih =>
    rw [closure_succ] at hj
    by_cases hnone : (found step seen frontier).isEmpty = true
    · rw [if_pos hnone] at hj
      exact ⟨j, hj, 0, rfl⟩
    rw [if_neg hnone] at hj
    obtain ⟨k, hk, m, htimes⟩ := ih (h.next hstep hR) hj
    rcases mem_merge.mp hk with hk | hk
    · exact ⟨k, hk, m, htimes⟩
    · -- one step earlier
      obtain ⟨⟨i, hi, hik⟩, -⟩ := (h.mem_found hstep).mp hk
      exact ⟨i, h.frontier_seen i hi, m + 1, k, hik, htimes⟩

theorem mem_closure (hstep : Takes size R step) (hR : Inside size R) (hplaces : Within size places) :
    j ∈ closure step (size + 1) places places ↔ ∃ m, ∃ i ∈ places, Times R m i j := by
  have hexplored : Explored size R places places :=
    ⟨hplaces, fun _ hi => hi, fun i hi hnot => absurd hi hnot⟩
  constructor
  · intro hj
    obtain ⟨i, hi, m, htimes⟩ := hexplored.reached hstep hR hj
    exact ⟨m, i, hi, htimes⟩
  · rintro ⟨m, i, hi, htimes⟩
    apply htimes.keeps _ (subset_closure hi)
    intro k l hkl hk
    exact hexplored.closed hstep hR (Nat.le_add_right _ _) hk hkl

/-! ## What a pattern means -/

namespace Expr

/-- The matches of an expression in a text, each from one place to another. -/
def Spans (text : Array Char) : Expr → Nat → Nat → Prop
  | empty, i, j => j = i
  | set s, i, j => j = i + 1 ∧ ∃ c, text[i]? = some c ∧ s.mem c = true
  | anchor a, i, j => j = i ∧ a.holds (if i = 0 then none else text[i - 1]?) text[i]? = true
  | seq x y, i, j => ∃ k, x.Spans text i k ∧ y.Spans text k j
  | alt x y, i, j => x.Spans text i j ∨ y.Spans text i j
  | rep x min max, i, j =>
    ∃ n, min ≤ n ∧ (∀ most, max = some most → n ≤ Nat.max min most) ∧ Times (x.Spans text) n i j

variable {text : Array Char}

/-- A match stays in the text. -/
theorem spans_inside (x : Expr) : Inside text.size (x.Spans text) := by
  induction x with
  | empty =>
    rintro i j rfl hi
    exact hi
  | set s =>
    rintro i j ⟨rfl, c, hc, -⟩ -
    exact (Array.getElem?_eq_some_iff.mp hc).1
  | anchor a =>
    rintro i j ⟨rfl, -⟩ hi
    exact hi
  | seq x y ihx ihy =>
    rintro i j ⟨k, hx, hy⟩ hi
    exact ihy k j hy (ihx i k hx hi)
  | alt x y ihx ihy =>
    rintro i j (hx | hy) hi
    · exact ihx i j hx hi
    · exact ihy i j hy hi
  | rep x min max ih =>
    rintro i j ⟨n, -, -, htimes⟩ hi
    exact ih.times i j htimes hi

/-- **Matching finds exactly the ends of matches.** -/
theorem ends_takes (x : Expr) : Takes text.size (x.Spans text) (x.ends text) := by
  induction x with
  | empty =>
    intro places _ j
    show j ∈ places ↔ ∃ i ∈ places, j = i
    simp
  | set s =>
    intro places _ j
    rw [ends, List.mem_filterMap]
    apply exists_congr
    intro i
    apply and_congr_right
    intro _
    show _ ↔ j = i + 1 ∧ ∃ c, text[i]? = some c ∧ s.mem c = true
    cases hc : text[i]? with
    | none => simp
    | some c =>
      by_cases hmem : s.mem c = true
      · simpa [hmem] using eq_comm
      · simp [hmem]
  | anchor a =>
    intro places _ j
    rw [ends, List.mem_filter]
    constructor
    · rintro ⟨hj, hholds⟩
      exact ⟨j, hj, rfl, hholds⟩
    · rintro ⟨i, hi, rfl, hholds⟩
      exact ⟨hi, hholds⟩
  | seq x y ihx ihy =>
    intro places hplaces j
    rw [ends, ihy _ (ihx.within x.spans_inside hplaces)]
    constructor
    · rintro ⟨k, hk, hy⟩
      obtain ⟨i, hi, hx⟩ := (ihx places hplaces k).mp hk
      exact ⟨i, hi, k, hx, hy⟩
    · rintro ⟨i, hi, k, hx, hy⟩
      exact ⟨k, (ihx places hplaces k).mpr ⟨i, hi, hx⟩, hy⟩
  | alt x y ihx ihy =>
    intro places hplaces j
    rw [ends, mem_merge, ihx places hplaces, ihy places hplaces]
    simp only [Spans, and_or_left, exists_or]
  | rep x min max ih =>
    intro places hplaces j
    have hfirst : Within text.size (iterate (x.ends text) min places) := by
      intro k hk
      obtain ⟨i, hi, htimes⟩ := (mem_iterate ih x.spans_inside hplaces).mp hk
      exact x.spans_inside.times i k htimes (hplaces i hi)
    cases max with
    | none =>
      rw [ends, mem_closure ih x.spans_inside hfirst]
      constructor
      · rintro ⟨m, k, hk, htimes⟩
        obtain ⟨i, hi, hfront⟩ := (mem_iterate ih x.spans_inside hplaces).mp hk
        refine ⟨i, hi, min + m, Nat.le_add_right _ _, ?_, times_add.mpr ⟨k, hfront, htimes⟩⟩
        intro most hmost
        cases hmost
      · rintro ⟨i, hi, n, hmin, -, htimes⟩
        obtain ⟨m, rfl⟩ := Nat.exists_eq_add_of_le hmin
        obtain ⟨k, hfront, hback⟩ := times_add.mp htimes
        exact ⟨m, k, (mem_iterate ih x.spans_inside hplaces).mpr ⟨i, hi, hfront⟩, hback⟩
    | some most =>
      rw [ends, mem_iterateUpTo ih x.spans_inside hfirst]
      constructor
      · rintro ⟨m, hm, k, hk, htimes⟩
        obtain ⟨i, hi, hfront⟩ := (mem_iterate ih x.spans_inside hplaces).mp hk
        refine ⟨i, hi, min + m, Nat.le_add_right _ _, ?_, times_add.mpr ⟨k, hfront, htimes⟩⟩
        intro most' hmost
        cases hmost
        show min + m ≤ Max.max min most
        omega
      · rintro ⟨i, hi, n, hmin, hmax, htimes⟩
        obtain ⟨m, rfl⟩ := Nat.exists_eq_add_of_le hmin
        obtain ⟨k, hfront, hback⟩ := times_add.mp htimes
        have hm : min + m ≤ Max.max min most := hmax most rfl
        exact ⟨m, by omega, k, (mem_iterate ih x.spans_inside hplaces).mpr ⟨i, hi, hfront⟩, hback⟩

/-- **A pattern matches a text if some part of the text is a match of it.** -/
theorem isMatch_iff {x : Expr} {row : String} :
    x.isMatch row = true ↔ ∃ i j, i ≤ row.toList.length ∧ x.Spans row.toList.toArray i j := by
  have hplaces : Within row.toList.toArray.size (List.range (row.toList.toArray.size + 1)) := by
    intro i hi
    exact Nat.le_of_lt_succ (List.mem_range.mp hi)
  have hmem := x.ends_takes _ hplaces
  rw [isMatch, Bool.not_eq_true', ← Bool.not_eq_true, List.isEmpty_iff, List.eq_nil_iff_forall_not_mem,
    not_forall]
  simp only [not_not, hmem, List.mem_range, Nat.lt_succ_iff]
  rw [exists_comm]
  simp

/-! ## Sets of characters

The part of the text that a match passes over is told by what is left of the text in front of it and
behind it. -/

variable {chars : List Char} {s : CharSet} {min : Nat}

theorem spans_set : (set s).Spans chars.toArray i j ↔
    j = i + 1 ∧ ∃ c, s.mem c = true ∧ chars.drop i = c :: chars.drop j := by
  show (j = i + 1 ∧ ∃ c, chars.toArray[i]? = some c ∧ s.mem c = true) ↔ _
  apply and_congr_right
  rintro rfl
  apply exists_congr
  intro c
  rw [List.getElem?_toArray, and_comm]
  apply and_congr_right
  intro _
  constructor
  · intro hc
    obtain ⟨hi, rfl⟩ := List.getElem?_eq_some_iff.mp hc
    exact List.drop_eq_getElem_cons hi
  · intro hdrop
    rw [← List.head?_drop, hdrop]
    rfl

theorem times_set : Times ((set s).Spans chars.toArray) n i j ↔ ∃ run : List Char, run.length = n ∧
    j = i + n ∧ (∀ c ∈ run, s.mem c = true) ∧ chars.drop i = run ++ chars.drop j := by
  induction n generalizing i with
  | zero =>
    constructor
    · rintro rfl
      exact ⟨[], rfl, rfl, fun c hc => absurd hc List.not_mem_nil, rfl⟩
    · rintro ⟨run, -, rfl, -⟩
      rfl
  | succ n ih =>
    constructor
    · rintro ⟨k, hstep, htimes⟩
      obtain ⟨rfl, c, hc, hdrop⟩ := spans_set.mp hstep
      obtain ⟨run, hlength, rfl, hrun, hrest⟩ := ih.mp htimes
      refine ⟨c :: run, ?_, ?_, List.forall_mem_cons.mpr ⟨hc, hrun⟩, ?_⟩
      · rw [List.length_cons, hlength]
      · omega
      · rw [hdrop, hrest, List.cons_append]
    · rintro ⟨run, hlength, rfl, hrun, hdrop⟩
      cases run with
      | nil => cases hlength
      | cons c run =>
        obtain ⟨hc, hrun⟩ := List.forall_mem_cons.mp hrun
        -- what is left behind the first character
        have hrest : chars.drop (i + 1) = run ++ chars.drop (i + (n + 1)) := by
          rw [← List.drop_drop, hdrop]
          rfl
        refine ⟨i + 1, spans_set.mpr ⟨rfl, c, hc, ?_⟩, ih.mpr ⟨run, ?_, ?_, hrun, hrest⟩⟩
        · rw [hrest, hdrop, List.cons_append]
        · exact Nat.succ_injective hlength
        · omega

/-- A repeated set passes over a run of its characters. -/
theorem spans_rep_set : (rep (set s) min none).Spans chars.toArray i j ↔ ∃ run : List Char,
    min ≤ run.length ∧ j = i + run.length ∧ (∀ c ∈ run, s.mem c = true) ∧
      chars.drop i = run ++ chars.drop j := by
  constructor
  · rintro ⟨n, hmin, -, htimes⟩
    obtain ⟨run, rfl, hrun⟩ := times_set.mp htimes
    exact ⟨run, hmin, hrun⟩
  · rintro ⟨run, hmin, hrun⟩
    refine ⟨run.length, hmin, ?_, times_set.mpr ⟨run, rfl, hrun⟩⟩
    intro most hmost
    cases hmost

end Expr

end LintGate.Pattern
