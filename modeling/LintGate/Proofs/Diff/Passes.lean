/-
A pass of the compaction comes to its end.

A pass takes each run of its kind up as far as it goes, then down as far as it goes, and goes
on behind it. The number of operations does not bound its steps: a run that is joined with
one above it has other lines, along which it may not come down again, and what it left
behind is gone through once more.

A run that is joined with nothing above it does come down again, at least to where it was
taken from. The lines that it passed on the way up are equal on the way down, so that it
ends where it would have ended without going up (`below_moveUp`). Then fewer stops are left
to the pass. A join above can leave more of them, up to all that the script has, but there
is one run less, and no step of the compaction adds a run or a stop. `stepsLeft` counts both,
and it falls with every step of a pass. At the start it is `passBound`, so the bound is
never what ends a pass (`compact_passed`).
-/
import LintGate.Proofs.Diff.Compaction

set_option autoImplicit false

namespace LintGate.Diff

variable {α : Type} {a b : Array α} {i j i' j' : Nat} {kind : Kind}

/-! ## Runs and stops -/

theorem Op.total_append (count : Op → Nat) (xs ys : List Op) :
    Op.total count (xs ++ ys) = Op.total count xs + Op.total count ys := by
  induction xs with
  | nil => exact (Nat.zero_add _).symm
  | cons op xs ih =>
    simp only [Op.total, List.cons_append, List.foldr_cons] at ih ⊢
    rw [ih, Nat.add_assoc]

@[simp] theorem stops_nil : stops [] = 0 := rfl

@[simp] theorem stops_cons (op : Op) (ops : List Op) :
    stops (op :: ops) = (if op.kind = .keep then max 1 op.oldLen else 1) + stops ops := rfl

@[simp] theorem stops_append (xs ys : List Op) : stops (xs ++ ys) = stops xs + stops ys :=
  Op.total_append _ xs ys

@[simp] theorem stops_reverse (ops : List Op) : stops ops.reverse = stops ops := by
  induction ops with
  | nil => rfl
  | cons op ops ih => simp [ih, Nat.add_comm]

/-- Every operation has a stop. -/
theorem stops_lt_cons (op : Op) (ops : List Op) : stops ops < stops (op :: ops) := by
  rw [stops_cons]
  split <;> omega

@[simp] theorem runsOf_nil (kind : Kind) : runsOf kind [] = 0 := rfl

@[simp] theorem runsOf_cons (kind : Kind) (op : Op) (ops : List Op) :
    runsOf kind (op :: ops) = runsOf kind ops + if op.kind = kind then 1 else 0 := by
  simp [runsOf, List.countP_cons]

@[simp] theorem runsOf_append (kind : Kind) (xs ys : List Op) :
    runsOf kind (xs ++ ys) = runsOf kind xs + runsOf kind ys := List.countP_append

@[simp] theorem runsOf_reverse (kind : Kind) (ops : List Op) :
    runsOf kind ops.reverse = runsOf kind ops := List.countP_reverse

/-! ## What a step of the compaction does to them -/

theorem runsOf_keepAfter (hkind : kind ≠ .keep) (s : Nat) (p t : Op) (after : List Op) :
    runsOf kind (keepAfter s p t after) = runsOf kind after := by
  cases after with
  | nil => simp [keepAfter, Op.keep, hkind.symm]
  | cons q rest =>
    rw [keepAfter]
    split <;> simp [Op.keep, hkind.symm]

theorem runsOf_keepBefore (hkind : kind ≠ .keep) (s : Nat) (t q : Op) (before : List Op) :
    runsOf kind (keepBefore s t q before) = runsOf kind before := by
  cases before with
  | nil => simp [keepBefore, Op.keep, hkind.symm]
  | cons p rest =>
    rw [keepBefore]
    split <;> simp [Op.keep, hkind.symm]

theorem runsOf_keptFront (hkind : kind ≠ .keep) (s : Nat) {p : Op} (hp : p.kind = .keep) :
    runsOf kind (keptFront s p) = 0 := by
  rw [keptFront]
  split <;> simp [hp, hkind.symm]

theorem runsOf_keptBack (hkind : kind ≠ .keep) (s : Nat) {q : Op} (hq : q.kind = .keep) :
    runsOf kind (keptBack s q) = 0 := by
  rw [keptBack]
  split <;> simp [hq, hkind.symm]

/-- A kept run has a stop for each of its lines. -/
theorem stops_keep (old new : Nat) {s : Nat} (hpos : s ≠ 0) : stops [Op.keep old new s] = s := by
  simp only [stops_cons, stops_nil, Op.keep, if_true]
  omega

/-- Lines that are kept more are stops more, in a kept run that takes them in or in a new one. -/
theorem stops_lengthen_le {s x y : Nat} (hpos : s ≠ 0) {q longer : Op} (hkind : longer.kind = q.kind)
    (hlen : longer.oldLen = q.oldLen + s) (rest : List Op) :
    stops (if q.kind = .keep then longer :: rest else Op.keep x y s :: q :: rest)
      ≤ s + stops (q :: rest) := by
  split
  next hq =>
    simp only [stops_cons, hkind, hq, hlen, if_true]
    omega
  next =>
    have hmade : stops (Op.keep x y s :: q :: rest) = s + stops (q :: rest) := by
      rw [← List.singleton_append, stops_append, stops_keep _ _ hpos]
    exact Nat.le_of_eq hmade

theorem stops_keepAfter_le {s : Nat} (hpos : s ≠ 0) (p t : Op) (after : List Op) :
    stops (keepAfter s p t after) ≤ s + stops after := by
  cases after with
  | nil => exact Nat.le_of_eq (stops_keep _ _ hpos)
  | cons q rest =>
    rw [keepAfter]
    refine stops_lengthen_le hpos ?_ ?_ rest <;> rfl

theorem stops_keepBefore_le {s : Nat} (hpos : s ≠ 0) (t q : Op) (before : List Op) :
    stops (keepBefore s t q before) ≤ s + stops before := by
  cases before with
  | nil => exact Nat.le_of_eq (stops_keep _ _ hpos)
  | cons p rest =>
    rw [keepBefore]
    refine stops_lengthen_le hpos ?_ ?_ rest <;> rfl

/-- Lines taken from a kept run take their stops along. -/
theorem stops_kept_le {s : Nat} {p rest : Op} (hp : p.kind = .keep) (hrest : rest.kind = .keep)
    (hlen : rest.oldLen = p.oldLen - s) (hle : s ≤ p.oldLen) :
    s + stops (if p.oldLen ≤ s then [] else [rest]) ≤ stops [p] := by
  split
  · simp only [stops_cons, hp, if_true, stops_nil]
    omega
  · simp only [stops_cons, hp, hrest, hlen, if_true, stops_nil]
    omega

variable [DecidableEq α]

/-- **A step adds no run.** -/
theorem Move.runsOf_le {ops ops' : List Op} (h : Move a b ops ops') (hkind : kind ≠ .keep) :
    runsOf kind ops' ≤ runsOf kind ops := by
  cases h with
  | skip hp hlen => simp
  | join ht hjoin =>
    simp only [runsOf_append, runsOf_cons, Op.extend]
    omega
  | swap hp ht hswap =>
    simp only [runsOf_append, runsOf_cons]
    omega
  | slideUp hs hpos hp ht =>
    simp only [runsOf_append, runsOf_cons, runsOf_keptFront hkind _ hp, runsOf_keepAfter hkind]
    omega
  | slideDown hs hpos hq ht =>
    simp only [runsOf_append, runsOf_cons, runsOf_reverse, runsOf_keptBack hkind _ hq,
      runsOf_keepBefore hkind]
    omega

/-- **Nor does it add a stop.** -/
theorem Move.stops_le {ops ops' : List Op} (h : Move a b ops ops') : stops ops' ≤ stops ops := by
  cases h with
  | skip hp hlen => simp
  | join ht hjoin =>
    simp only [stops_append, stops_cons, Op.extend, ht, hjoin, if_false]
    omega
  | swap hp ht hswap =>
    simp only [stops_append, stops_cons]
    omega
  | @slideUp front after p t s hs hpos hp ht =>
    have hle := commonEnd_le a b p.old (p.old + p.oldLen) t.new (t.new + t.newLen)
    have hfront : s + stops (keptFront s p) ≤ stops [p] := stops_kept_le hp hp rfl (by omega)
    have hafter := stops_keepAfter_le hpos p t after
    simp only [stops_append, stops_cons, stops_nil] at hfront ⊢
    omega
  | @slideDown before rest t q s hs hpos hq ht =>
    have hle := commonStart_le a b q.old (q.old + q.oldLen) t.new (t.new + t.newLen)
    have hback : s + stops (keptBack s q) ≤ stops [q] := stops_kept_le hq hq rfl (by omega)
    have hbefore := stops_keepBefore_le hpos t q before
    simp only [stops_append, stops_cons, stops_nil, stops_reverse] at hback ⊢
    omega

theorem Moves.runsOf_le {ops ops' : List Op} (h : Moves a b ops ops') (hkind : kind ≠ .keep) :
    runsOf kind ops' ≤ runsOf kind ops := by
  induction h with
  | refl => exact Nat.le_refl _
  | tail _ hmove ih => exact Nat.le_trans (hmove.runsOf_le hkind) ih

theorem Moves.stops_le {ops ops' : List Op} (h : Moves a b ops ops') : stops ops' ≤ stops ops := by
  induction h with
  | refl => exact Nat.le_refl _
  | tail _ hmove ih => exact Nat.le_trans hmove.stops_le ih

/-! ## What is left below a run -/

/-- What is left behind a run that is moved down depends neither on what is in front of it nor on its
old lines. -/
theorem moveDown_after_eq (before before' : List Op) (t : Op) (old oldLen : Nat) (after : List Op) :
    (moveDown a b before t after).after
      = (moveDown a b before' { t with old := old, oldLen := oldLen } after).after := by
  fun_induction moveDown a b before t after generalizing before' old oldLen with
  | case1 before t => rw [moveDown]
  | case2 before t q rest hq s hs hlen ih =>
    conv => rhs; rw [moveDown, if_pos hq, if_pos hs, if_pos hlen]
    exact ih _ _ _
  | case3 before t q rest hq s hs hlen =>
    conv => rhs; rw [moveDown, if_pos hq, if_pos hs, if_neg hlen]
  | case4 before t q rest hq s hs t' before₁ hlen ih =>
    conv => rhs; rw [moveDown, if_pos hq, if_neg hs, if_pos hlen]
    exact ih _ _ _
  | case5 before t q rest hq s hs t' before₁ hlen q' ih =>
    conv => rhs; rw [moveDown, if_pos hq, if_neg hs, if_neg hlen]
    exact ih _ _ _
  | case6 before t q rest hq hkind ih =>
    conv => rhs; rw [moveDown, if_neg hq, if_pos hkind]
    exact ih _ _ _
  | case7 before t q rest hq hkind ih =>
    conv => rhs; rw [moveDown, if_neg hq, if_neg hkind]
    exact ih _ _ _

/-- What is left behind a run that is moved down as far as it goes. -/
def below (a b : Array α) (t : Op) (after : List Op) : List Op := (moveDown a b [] t after).after

theorem moveDown_after (before : List Op) (t : Op) (after : List Op) :
    (moveDown a b before t after).after = below a b t after :=
  moveDown_after_eq before [] t t.old t.oldLen after

theorem below_old (t : Op) (old : Nat) (after : List Op) :
    below a b { t with old := old } after = below a b t after :=
  (moveDown_after_eq [] [] t old t.oldLen after).symm

/-- Moving down never leaves more stops than there were. -/
theorem stops_below_le (t : Op) (after : List Op) : stops (below a b t after) ≤ stops after := by
  unfold below
  generalize ([] : List Op) = before
  fun_induction moveDown a b before t after with
  | case1 before t => exact Nat.le_refl _
  | case2 before t q rest hq s hs hlen ih => exact Nat.le_trans ih (Nat.le_of_lt (stops_lt_cons q rest))
  | case3 before t q rest hq s hs hlen => exact Nat.le_refl _
  | case4 before t q rest hq s hs t' before' hlen ih =>
    exact Nat.le_trans ih (Nat.le_of_lt (stops_lt_cons q rest))
  | case5 before t q rest hq s hs t' before' hlen q' ih =>
    refine Nat.le_trans ih ?_
    simp only [stops_cons, q', hq, if_true]
    omega
  | case6 before t q rest hq hkind ih => exact Nat.le_trans ih (Nat.le_of_lt (stops_lt_cons q rest))
  | case7 before t q rest hq hkind ih => exact Nat.le_trans ih (Nat.le_of_lt (stops_lt_cons q rest))

/-- A run passes one of another kind. -/
theorem below_swap {t p : Op} (hp : p.kind ≠ .keep) (hkind : p.kind ≠ t.kind) (after : List Op) :
    below a b t (p :: after) = below a b t after := by
  rw [below, moveDown, if_neg hp, if_neg hkind]
  exact moveDown_after _ t after

/-- It passes a kept run without lines. -/
theorem below_skip {t q : Op} (hq : q.kind = .keep) (hlen : q.oldLen = 0) (rest : List Op) :
    below a b t (q :: rest) = below a b t rest := by
  have hs : commonStart a b q.old (q.old + q.oldLen) t.new (t.new + t.newLen) = 0 := by
    have hle := commonStart_le a b q.old (q.old + q.oldLen) t.new (t.new + t.newLen)
    omega
  rw [below, moveDown, if_pos hq, if_pos hs, if_pos hlen]
  rfl

/-- It passes the lines that a kept run begins with, as far as they are its own. -/
theorem below_commonStart {t q : Op} (hq : q.kind = .keep) (rest : List Op) {s : Nat}
    (hs : s = commonStart a b q.old (q.old + q.oldLen) t.new (t.new + t.newLen)) :
    below a b t (q :: rest) = below a b { t with old := t.old + s, new := t.new + s }
      ({ q with old := q.old + s, oldLen := q.oldLen - s, new := q.new + s, newLen := q.newLen - s }
        :: rest) := by
  by_cases hpos : s = 0
  · rw [hpos]
    rfl
  · rw [below, moveDown, if_pos hq, if_neg (hs ▸ hpos), ← hs]
    split
    next hlen =>
      rw [moveDown_after, below_skip (by exact hq) (by simp only; omega)]
    next => exact moveDown_after _ _ _

/-- **It does not matter in how many steps the lines are passed.** -/
theorem below_slide {t q : Op} (hq : q.kind = .keep) (rest : List Op) {k : Nat}
    (hk : k ≤ commonStart a b q.old (q.old + q.oldLen) t.new (t.new + t.newLen)) :
    below a b t (q :: rest) = below a b { t with old := t.old + k, new := t.new + k }
      ({ q with old := q.old + k, oldLen := q.oldLen - k, new := q.new + k, newLen := q.newLen - k }
        :: rest) := by
  -- by the lines of the kept run: what is passed first leaves a shorter one
  induction hlen : q.oldLen using Nat.strongRecOn generalizing t q k with
  | ind n ih =>
    subst hlen
    rcases Nat.eq_zero_or_pos k with rfl | hpos
    · rfl
    generalize hs : commonStart a b q.old (q.old + q.oldLen) t.new (t.new + t.newLen) = s at hk
    have hle := commonStart_le a b q.old (q.old + q.oldLen) t.new (t.new + t.newLen)
    have hagree := agree_commonStart a b q.old (q.old + q.oldLen) t.new (t.new + t.newLen)
    rw [hs] at hle hagree
    rw [below_commonStart hq rest hs.symm]
    -- behind the first `k` lines the rest of them is still common
    obtain ⟨r, rfl⟩ := Nat.exists_eq_add_of_le hk
    have hrest : r ≤ commonStart a b (q.old + k) (q.old + k + (q.oldLen - k)) (t.new + k)
        (t.new + k + t.newLen) :=
      le_commonStart (agree_add.mp hagree).2 (by omega) (by omega)
    have h := ih (q.oldLen - k) (by omega) (t := { t with old := t.old + k, new := t.new + k })
      (q := { q with
        old := q.old + k, oldLen := q.oldLen - k, new := q.new + k, newLen := q.newLen - k })
      hq hrest rfl
    simp only [Nat.add_assoc, Nat.sub_sub] at h
    exact h.symm

/-- A run that moved up along equal lines passes them again. -/
theorem below_keepAfter {u v s : Nat} {p t : Op} {after : List Op}
    (hs : s = commonEnd a b p.old (p.old + p.oldLen) t.new (t.new + t.newLen)) (hpos : s ≠ 0)
    (h : Walk a b u v (p :: t :: after) i' j') (hp : p.kind = .keep) (ht : t.kind ≠ .keep) :
    below a b { t with old := t.old - s, new := t.new - s } (keepAfter s p t after)
      = below a b t after := by
  obtain ⟨hfits, hfits', hafter⟩ := h
  obtain ⟨hold, hnew, hlen, hagree⟩ := (fits_of_keep hp).mp hfits
  have hle := commonEnd_le a b p.old (p.old + p.oldLen) t.new (t.new + t.newLen)
  rw [← hs] at hle
  obtain ⟨hkind, htnew, htlen⟩ := fits_of_new_lines hfits' ht (by omega)
  -- the lines it moved along are those that the kept run pairs
  have hpaired : Agree a b (p.old + p.oldLen - s) (t.new - s) s := by
    have hsplit : p.oldLen = p.oldLen - s + s := by omega
    rw [hsplit, agree_add] at hagree
    have hu : p.old + p.oldLen - s = u + (p.oldLen - s) := by omega
    have hv : t.new - s = v + (p.oldLen - s) := by omega
    rw [hu, hv]
    exact hagree.2
  have htop : t.new - s + s = t.new := by omega
  -- a kept run that was made for these lines alone is passed as a whole
  have hfresh : ∀ y rest, below a b { t with old := t.old - s, new := t.new - s }
      (Op.keep (p.old + p.oldLen - s) y s :: rest) = below a b t rest := by
    intro y rest
    rw [below_slide rfl rest (k := s) (le_commonStart hpaired (Nat.le_refl _) (by simp only; omega)),
      below_skip rfl (Nat.sub_self s)]
    simp only [htop]
    exact below_old t _ rest
  cases after with
  | nil => exact hfresh _ []
  | cons q rest =>
    rw [keepAfter]
    split
    next hq =>
      -- of one that took them in, what it was is left
      obtain ⟨hqold, hqnew, -, -⟩ := (fits_of_keep hq).mp hafter.1
      have hqstart : q.old - s = p.old + p.oldLen - s := by omega
      rw [below_slide (by exact hq) rest (k := s)
        (le_commonStart (by simp only [hqstart]; exact hpaired) (by simp only; omega)
          (by simp only; omega))]
      have hqold' : q.old - s + s = q.old := by omega
      have hqnew' : q.new - s + s = q.new := by omega
      simp only [htop, hqold', hqnew', Nat.add_sub_cancel]
      exact below_old t _ (q :: rest)
    next => exact hfresh _ (q :: rest)

/-- **Moving down undoes moving up**, as far as what is left below the run goes, unless the run was
joined with one above it. -/
theorem below_moveUp {before after : List Op} {t : Op} (ht : t.kind ≠ .keep)
    (h : Walk a b i j (before.reverse ++ t :: after) i' j') :
    runsOf t.kind (moveUp a b before t after).toList < runsOf t.kind (before.reverse ++ t :: after) ∨
      below a b (moveUp a b before t after).current (moveUp a b before t after).after
        = below a b t after := by
  fun_induction moveUp a b before t after with
  | case1 t after => exact .inr rfl
  | case2 t after p rest hp s hs hlen ih =>
    rw [List.reverse_cons, List.append_assoc] at h ⊢
    have hmove : Move a b (rest.reverse ++ p :: t :: after) (rest.reverse ++ t :: after) :=
      .skip hp hlen
    exact (ih ht (hmove.walk h)).imp_left fun hlt => Nat.lt_of_lt_of_le hlt (hmove.runsOf_le ht)
  | case3 t after p rest hp s hs hlen => exact .inr rfl
  | case4 t after p rest hp s hs t' after' hlen ih =>
    rw [List.reverse_cons, List.append_assoc] at h ⊢
    have hmove : Move a b (rest.reverse ++ p :: t :: after)
        (rest.reverse ++ (keptFront s p ++ t' :: after')) := h.move_up rfl hs hp ht
    rw [keptFront, if_pos hlen] at hmove
    obtain ⟨u, v, -, hback⟩ := walk_append.mp h
    exact (ih ht (hmove.walk h)).imp (fun hlt => Nat.lt_of_lt_of_le hlt (hmove.runsOf_le ht))
      fun heq => heq.trans (below_keepAfter rfl hs hback hp ht)
  | case5 t after p rest hp s hs t' after' hlen ih =>
    rw [List.reverse_cons, List.append_assoc] at h ih ⊢
    have hmove : Move a b (rest.reverse ++ p :: t :: after)
        (rest.reverse ++ (keptFront s p ++ t' :: after')) := h.move_up rfl hs hp ht
    rw [keptFront, if_neg hlen] at hmove
    obtain ⟨u, v, -, hback⟩ := walk_append.mp h
    exact (ih ht (hmove.walk h)).imp (fun hlt => Nat.lt_of_lt_of_le hlt (hmove.runsOf_le ht))
      fun heq => heq.trans (below_keepAfter rfl hs hback hp ht)
  | case6 t after p rest hp hkind ih =>
    -- the join makes one run of two, and what comes then adds none
    rw [List.reverse_cons, List.append_assoc] at h ⊢
    have hmove : Move a b (rest.reverse ++ p :: t :: after) (rest.reverse ++ p.extend t :: after) :=
      .join ht hkind
    have hle := (moveUp_moves (t := p.extend t) hp (hmove.walk h)).runsOf_le ht
    refine .inl (Nat.lt_of_le_of_lt hle ?_)
    simp [Op.extend, hkind]
  | case7 t after p rest hp hkind ih =>
    rw [List.reverse_cons, List.append_assoc] at h ⊢
    have hmove : Move a b (rest.reverse ++ p :: t :: after) (rest.reverse ++ t :: p :: after) :=
      .swap hp ht hkind
    rw [← below_swap hp hkind after]
    exact (ih ht (hmove.walk h)).imp_left fun hlt => Nat.lt_of_lt_of_le hlt (hmove.runsOf_le ht)

/-! ## Steps of a pass -/

/-- **A run taken to its place was joined with one above it, or ends at least where it was.** -/
theorem settle_progress {before after : List Op} {t : Op} (ht : t.kind ≠ .keep)
    (h : Walk a b i j (before.reverse ++ t :: after) i' j') :
    runsOf t.kind (settle a b before t after).toList < runsOf t.kind (before.reverse ++ t :: after) ∨
      stops (settle a b before t after).after ≤ stops after := by
  refine (below_moveUp ht h).imp (fun hjoin => ?_) fun hbelow => ?_
  · have hdown := moveDown_moves (by rwa [moveUp_kind]) ((moveUp_moves ht h).walk h)
    exact Nat.lt_of_le_of_lt (hdown.runsOf_le ht) hjoin
  · rw [settle, moveDown_after, hbelow]
    exact stops_below_le t after

/-- An insertion that is joined with one above it stays above the line that it passed: a stop is left
behind it, where there was none. -/
example : (settle #["y"] #["x", "y", "y"] [Op.keep 0 1 1, Op.insert 0 0 1] (Op.insert 1 2 1) []).after
    = [Op.keep 0 2 1] := by decide +kernel

/-- What is left of a pass: the stops behind it, and all stops for each run of its kind. -/
def stepsLeft (kind : Kind) (before after : List Op) : Nat :=
  runsOf kind (before.reverse ++ after) * stops (before.reverse ++ after) + stops after

theorem stepsLeft_nil (kind : Kind) (ops : List Op) : stepsLeft kind [] ops = passBound kind ops :=
  (Nat.succ_mul _ _).symm

/-- **Taking a run to its place leaves less of the pass.** -/
theorem stepsLeft_settle_lt (hkind : kind ≠ .keep) {before after : List Op} {t : Op}
    (ht : t.kind = kind) (h : Walk a b i j (before.reverse ++ t :: after) i' j') :
    stepsLeft kind ((settle a b before t after).current :: (settle a b before t after).before)
      (settle a b before t after).after < stepsLeft kind before (t :: after) := by
  subst ht
  have hmoves := settle_moves hkind h
  have hprogress := settle_progress hkind h
  generalize settle a b before t after = z at hmoves hprogress ⊢
  have hruns := hmoves.runsOf_le hkind
  have hstops := hmoves.stops_le
  have hlist : (z.current :: z.before).reverse ++ z.after = z.toList := by
    rw [List.reverse_cons, List.append_assoc]
    rfl
  rw [stepsLeft, stepsLeft, hlist]
  rcases hprogress with hjoin | hbehind
  · -- one run less is all stops less, and behind the run not all of them are left
    have hcurrent : stops z.after < stops z.toList := by
      have hlt := stops_lt_cons z.current z.after
      rw [Focus.toList, stops_append]
      omega
    calc runsOf t.kind z.toList * stops z.toList + stops z.after
        < (runsOf t.kind z.toList + 1) * stops z.toList := by
          rw [Nat.succ_mul]
          exact Nat.add_lt_add_left hcurrent _
      _ ≤ runsOf t.kind (before.reverse ++ t :: after) * stops (before.reverse ++ t :: after) :=
          Nat.mul_le_mul hjoin hstops
      _ ≤ _ := Nat.le_add_right _ _
  · have hlt := Nat.lt_of_le_of_lt hbehind (stops_lt_cons t after)
    exact Nat.add_lt_add_of_le_of_lt (Nat.mul_le_mul hruns hstops) hlt

/-- So does stepping over an operation. -/
theorem stepsLeft_over_lt (kind : Kind) (before : List Op) (op : Op) (after : List Op) :
    stepsLeft kind (op :: before) after < stepsLeft kind before (op :: after) := by
  have hlist : (op :: before).reverse ++ after = before.reverse ++ op :: after := by
    rw [List.reverse_cons, List.append_assoc]
    rfl
  rw [stepsLeft, stepsLeft, hlist]
  exact Nat.add_lt_add_left (stops_lt_cons op after) _

/-! ## Passes that come to their end -/

/-- A pass without a bound, from what is in front of it and behind it to the script it ends with. -/
inductive Passed (a b : Array α) (kind : Kind) : List Op → List Op → List Op → Prop where
  /-- Nothing is left. -/
  | done (before : List Op) : Passed a b kind before [] before.reverse
  /-- A run of the kind is taken to its place. -/
  | settle {before after ops : List Op} {op : Op} (hop : op.kind = kind)
      (h : Passed a b kind
        ((settle a b before op after).current :: (settle a b before op after).before)
        (settle a b before op after).after ops) :
      Passed a b kind before (op :: after) ops
  /-- Any other operation is stepped over. -/
  | over {before after ops : List Op} {op : Op} (hop : op.kind ≠ kind)
      (h : Passed a b kind (op :: before) after ops) : Passed a b kind before (op :: after) ops

/-- **A pass that is allowed the steps it has left comes to its end.** -/
theorem compactKind_passed (hkind : kind ≠ .keep) (left : Nat) (before after : List Op)
    (h : Walk a b i j (before.reverse ++ after) i' j') (hleft : stepsLeft kind before after ≤ left) :
    Passed a b kind before after (compactKind a b kind left before after) := by
  fun_induction compactKind a b kind left before after with
  | case1 before after =>
    -- an operation left would be a step left
    cases after with
    | nil =>
      rw [List.append_nil]
      exact .done before
    | cons op after =>
      have hlt := stepsLeft_over_lt kind before op after
      omega
  | case2 left before => exact .done before
  | case3 left before op after hop up down ih =>
    have hlt := stepsLeft_settle_lt hkind hop h
    have hwalk := (settle_moves (hop ▸ hkind) h).walk h
    rw [List.reverse_cons, List.append_assoc] at ih
    exact .settle hop (ih hwalk (by exact Nat.le_of_lt_succ (Nat.lt_of_lt_of_le hlt hleft)))
  | case4 left before op after hop ih =>
    have hlt := stepsLeft_over_lt kind before op after
    rw [List.reverse_cons, List.append_assoc] at ih
    exact .over hop (ih h (by omega))

/-- **The bounds of the two passes suffice.** The compaction of a walk, and every script is one, goes
through its removals and then through its insertions to the end. -/
theorem compact_passed {ops : List Op} (h : Walk a b i j ops i' j') :
    ∃ removed, Passed a b .remove [] ops removed ∧
      Passed a b .insert [] removed (compact a b ops) := by
  have hpass : ∀ {kind : Kind} {ops : List Op}, kind ≠ .keep → Walk a b i j ops i' j' →
      Passed a b kind [] ops (compactKind a b kind (passBound kind ops) [] ops) :=
    fun hkind h => compactKind_passed hkind _ [] _ h (Nat.le_of_eq (stepsLeft_nil _ _))
  have hremoved : Moves a b ops (compactKind a b .remove (passBound .remove ops) [] ops) :=
    compactKind_moves (by decide) _ [] ops h
  exact ⟨_, hpass (by decide) h, hpass (by decide) (hremoved.walk h)⟩

end LintGate.Diff
