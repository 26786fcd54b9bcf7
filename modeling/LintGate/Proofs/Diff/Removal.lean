/-
Scripts between a sequence and one of its sublists.

Where lines are only removed, the script only removes lines. That is no matter of course: a
removal and an insertion of the same lines would do as well, and a script that made a detour would
report an old line as a new one. `scriptBetween_removes` follows the division of both sides, which
leaves sublists on either side of each middle (`middle_divides`), and `compact_removes` the
compaction, none of whose steps makes an insertion. So no hunk adds a line.
-/
import LintGate.Proofs.Diff.Deletion
import LintGate.Proofs.Diff.Hunks
import LintGate.Proofs.Diff.Places

set_option autoImplicit false

namespace LintGate.Diff

/-! ## Scripts of sublists -/

/-- The last lines of both lists may be left out. -/
theorem sublist_rdrop {α : Type} {xs ys : List α} (h : ys.Sublist xs) (n : Nat) :
    (ys.take (ys.length - n)).Sublist (xs.take (xs.length - n)) := by
  have hrev := (List.reverse_sublist.mpr h).drop n
  rwa [List.drop_reverse, List.drop_reverse, List.reverse_sublist] at hrev

section Scripts

variable {α : Type} [DecidableEq α] {a b : Array α} {i j i' j' : Nat} {ops ops' : List Op}

omit [DecidableEq α] in
/-- A range is told by its start and its length. -/
theorem between_congr (side : Array α) {i j j' : Nat} (h : j - i = j' - i) :
    between side i j = between side i j' := by
  rw [between, between, h]

omit [DecidableEq α] in
/-- Common ends of two ranges can be left out. -/
theorem between_sublist_strip {a₀ a₁ b₀ b₁ : Nat} (ha : a₁ ≤ a.size) (hb : b₁ ≤ b.size)
    (h : (between b b₀ b₁).Sublist (between a a₀ a₁)) (p s : Nat) :
    (between b (b₀ + p) (b₁ - s)).Sublist (between a (a₀ + p) (a₁ - s)) := by
  have hfront := h.drop p
  rw [drop_between, drop_between] at hfront
  have hback := sublist_rdrop hfront s
  rw [length_between a ha, length_between b hb, take_between a (Nat.sub_le _ _),
    take_between b (Nat.sub_le _ _)] at hback
  have hend : ∀ i j : Nat, i + (j - i - s) - i = j - s - i := fun i j => by omega
  rwa [between_congr b (hend _ _), between_congr a (hend _ _)] at hback

theorem keepRun_removes (x y n : Nat) : ∀ op ∈ keepRun x y n, op.kind ≠ .insert := by
  unfold keepRun
  split
  · exact fun op hop => absurd hop List.not_mem_nil
  · intro op hop hinsert
    rw [List.mem_singleton] at hop
    rw [hop] at hinsert
    cases hinsert

/-- **The script from a range to a sublist of it inserts nothing.** -/
theorem scriptBetween_removes (a b : Array α) (a₀ a₁ b₀ b₁ : Nat) (ha : a₁ ≤ a.size)
    (hb : b₁ ≤ b.size) (hsub : (between b b₀ b₁).Sublist (between a a₀ a₁)) :
    ∀ op ∈ scriptBetween a b a₀ a₁ b₀ b₁, op.kind ≠ .insert := by
  fun_induction scriptBetween a b a₀ a₁ b₀ b₁ with
  | case1 a₀ a₁ b₀ b₁ p a₀' b₀' s a₁' b₁' core ihfirst ihsecond =>
    have ha' : a₁' ≤ a.size := Nat.le_trans (Nat.sub_le _ _) ha
    have hb' : b₁' ≤ b.size := Nat.le_trans (Nat.sub_le _ _) hb
    have hstripped : (between b b₀' b₁').Sublist (between a a₀' a₁') :=
      between_sublist_strip ha hb hsub p s
    have hlen := hstripped.length_le
    rw [length_between a ha', length_between b hb'] at hlen
    have hle : a₁' - a₀' ≤ a₁ - a₀ ∧ b₁' - b₀' ≤ b₁ - b₀ := by omega
    have hcore : ∀ op ∈ core, op.kind ≠ .insert := by
      simp only [core]
      split
      · exact fun op hop => absurd hop List.not_mem_nil
      split
      · intro op hop hinsert
        rw [List.mem_singleton] at hop
        rw [hop] at hinsert
        cases hinsert
      split
      · -- there cannot be new lines left without old ones
        omega
      -- the sides begin with different lines, so that they cannot be as long as each other
      have hfront : a[a₀']? ≠ b[b₀']? := commonStart_stops a b a₀ a₁ b₀ b₁ (by omega) (by omega)
      have hlonger : b₁' - b₀' < a₁' - a₀' := by
        refine Nat.lt_of_le_of_ne hlen fun heq => hfront ?_
        have hsame : between b b₀' b₁' = between a a₀' a₁' := by
          refine hstripped.eq_of_length ?_
          rw [length_between a ha', length_between b hb', heq]
        have hhead := congrArg (·[0]?) hsame
        rw [getElem?_between b (by omega), getElem?_between a (by omega)] at hhead
        exact hhead.symm
      obtain ⟨x, y, hmiddle, hwithin, hproper, hfirst, hsecond⟩ :=
        middle_divides a b ha' hb' hstripped (by omega) hlonger hfront
      rw [hmiddle]
      split
      next h =>
        intro op hop
        rcases List.mem_append.mp hop with hop | hop
        · exact ihfirst x y h (by omega) (by omega) hfirst op hop
        · exact ihsecond x y h ha' hb' hsecond op hop
      next h =>
        -- the division is proper
        exact absurd ⟨hwithin, by omega, by omega⟩ h
    intro op hop
    rcases List.mem_append.mp hop with hop | hop
    · rcases List.mem_append.mp hop with hop | hop
      · exact keepRun_removes _ _ _ op hop
      · exact hcore op hop
    · exact keepRun_removes _ _ _ op hop

/-- The script from a sequence to a sublist of it inserts nothing, compacted or not. -/
theorem compact_removes (hsub : b.toList.Sublist a.toList) :
    ∀ op ∈ compact a b (script a b), op.kind ≠ .insert := by
  have hscript : ∀ op ∈ script a b, op.kind ≠ .insert := by
    refine scriptBetween_removes a b 0 a.size 0 b.size (Nat.le_refl _) (Nat.le_refl _) ?_
    have hwhole : ∀ side : Array α, between side 0 side.size = side.toList := fun side => by
      rw [between, List.drop_zero, Nat.sub_zero, ← Array.length_toList, List.take_length]
    rw [hwhole, hwhole]
    exact hsub
  have hwalk := script_walk a b
  refine ((compact_moves hwalk).keeps hwalk (P := fun ops => ∀ op ∈ ops, op.kind ≠ .insert)
    (fun _ _ hmove _ hall => ?_) hscript).2
  refine hmove.all (fun op hkeep _ hinsert => ?_) (fun p t hp _ => hp) (fun t _ _ ht hnot => ?_) hall
  · exact absurd (hkeep.symm.trans hinsert) (by decide)
  · exact absurd ht hnot

end Scripts

/-! ## Hunks of sublists -/

/-- The change of a stretch is made of operations of the script. -/
theorem exists_run_of_change {ops : List Op} {c : Change}
    (h : c ∈ (stretches ops).filterMap Stretch.change?) :
    ∃ run, c = Change.ofRun run ∧ ∀ op ∈ run, op ∈ ops := by
  fun_induction stretches ops with
  | case1 => cases h
  | case2 op rest hop ih =>
    obtain ⟨run, hc, hrun⟩ := ih h
    exact ⟨run, hc, fun o ho => List.mem_cons_of_mem op ((List.dropWhile_sublist _).subset (hrun o ho))⟩
  | case3 op rest hop ih =>
    rcases List.mem_cons.mp h with rfl | h
    · exact ⟨_, rfl, fun o ho => ((List.takeWhile_sublist _).cons_cons op).subset ho⟩
    · obtain ⟨run, hc, hrun⟩ := ih h
      exact ⟨run, hc, fun o ho => List.mem_cons_of_mem op ((List.dropWhile_sublist _).subset (hrun o ho))⟩

/-- **Where lines are only removed no hunk adds any.** -/
theorem newLen_eq_zero_of_sublist {old new : Array String} (hsub : new.toList.Sublist old.toList)
    {hunk : Hunk} (h : hunk ∈ hunksBetween old new) : hunk.change.newLen = 0 := by
  have hchange : hunk.change ∈ (stretches (compact old new (script old new))).filterMap
      Stretch.change? := by
    rw [← hunksAfter_change none]
    exact List.mem_map_of_mem h
  obtain ⟨run, hrun, hmem⟩ := exists_run_of_change hchange
  have hnone : insertions run = [] := by
    refine List.filter_eq_nil_iff.mpr fun op hop => ?_
    simpa using compact_removes hsub op (hmem op hop)
  rw [hrun, Change.ofRun_newLen, hnone]
  rfl

end LintGate.Diff
