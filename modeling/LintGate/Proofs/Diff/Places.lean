/-
Places that stay right through the compaction.

The script of two sequences places every run on both sides. Compaction does not keep that:
runs that change places keep the positions they were found at, so that a removal may have a
stale place on the new side and an insertion a stale one on the old side. `Walk` asks
nothing of these coordinates, but the headers of hunks are made from some of them.

What each step keeps of them is this. A stale place still lies inside its side: removals do
not move along lines at all, and an insertion leaves room for the lines kept behind it
(`Move.within`). The first removal has the place it was found at (`Move.first_removal`).
-/
import LintGate.Proofs.Diff.Compaction

set_option autoImplicit false

namespace LintGate.Diff

variable {α : Type} {a b : Array α} {i j i' j' u v : Nat} {ops ops' : List Op}

/-! ## Places in a straight walk -/

/-- Every run has lines. -/
def Solid (ops : List Op) : Prop := ∀ op ∈ ops, 0 < op.oldLen + op.newLen

theorem Straight.of_mem (h : Straight a b i j ops i' j') {op : Op} (hop : op ∈ ops) :
    j ≤ op.new ∧ op.new ≤ j' ∧ 0 < op.oldLen + op.newLen := by
  induction ops generalizing i j with
  | nil => cases hop
  | cons first rest ih =>
    obtain ⟨-, ⟨-, hnew, hlen⟩, hrest⟩ := h
    have hle := hrest.walk.le
    rcases List.mem_cons.mp hop with rfl | hop
    · omega
    · have hplace := ih hrest hop
      omega

theorem Straight.solid (h : Straight a b i j ops i' j') : Solid ops := fun _ hop => (h.of_mem hop).2.2

/-! ## Kept lines behind insertions -/

/-- The kept lines of a script. -/
def keptTotal : List Op → Nat
  | [] => 0
  | op :: ops => (if op.kind = .keep then op.oldLen else 0) + keptTotal ops

theorem keptTotal_append (xs ys : List Op) : keptTotal (xs ++ ys) = keptTotal xs + keptTotal ys := by
  induction xs with
  | nil => exact (Nat.zero_add _).symm
  | cons op xs ih => rw [List.cons_append, keptTotal, keptTotal, ih, Nat.add_assoc]

theorem Walk.keptTotal_le (h : Walk a b i j ops i' j') : i + keptTotal ops ≤ i' := by
  induction ops generalizing i j with
  | nil => exact Nat.le_of_eq h.1
  | cons op ops ih =>
    have hrest := ih h.2
    rw [keptTotal]
    split <;> omega

/-- Every insertion leaves room on the old side for the kept lines behind it, and for `extra`
lines that follow. -/
def Within (size : Nat) : Nat → List Op → Prop
  | _, [] => True
  | extra, op :: ops =>
    (op.kind = .insert → op.old + (keptTotal ops + extra) ≤ size) ∧ Within size extra ops

theorem within_append {size extra : Nat} {xs ys : List Op} :
    Within size extra (xs ++ ys) ↔ Within size (keptTotal ys + extra) xs ∧ Within size extra ys := by
  induction xs with
  | nil => exact ⟨fun h => ⟨trivial, h⟩, And.right⟩
  | cons op xs ih =>
    rw [List.cons_append, Within, Within, ih, keptTotal_append, Nat.add_assoc, and_assoc]

theorem Within.le_of_mem {size extra : Nat} (h : Within size extra ops) {op : Op} (hop : op ∈ ops)
    (hkind : op.kind = .insert) : op.old ≤ size := by
  induction ops with
  | nil => cases hop
  | cons first rest ih =>
    rcases List.mem_cons.mp hop with rfl | hop
    · have hroom := h.1 hkind
      omega
    · exact ih h.2 hop

/-- In a straight walk there is room. -/
theorem Straight.within (h : Straight a b i j ops i' j') : Within i' 0 ops := by
  induction ops generalizing i j with
  | nil => trivial
  | cons op ops ih =>
    obtain ⟨hfits, ⟨hold, -⟩, hrest⟩ := h
    refine ⟨fun hkind => ?_, ih hrest⟩
    have hlen := ((fits_of_insert hkind).mp hfits).2
    have hkept := hrest.walk.keptTotal_le
    omega

/-! ## What steps change -/

theorem mem_keepAfter {s : Nat} {p t o : Op} {after : List Op} (h : o ∈ keepAfter s p t after) :
    o ∈ after ∨ (o.kind = .keep ∧ s ≤ o.oldLen) := by
  cases after with
  | nil =>
    rw [keepAfter, List.mem_singleton] at h
    exact .inr (h ▸ ⟨rfl, Nat.le_refl s⟩)
  | cons q rest =>
    rw [keepAfter] at h
    split at h
    next hq =>
      rcases List.mem_cons.mp h with rfl | h
      · exact .inr ⟨hq, Nat.le_add_left s q.oldLen⟩
      · exact .inl (List.mem_cons_of_mem q h)
    next =>
      rcases List.mem_cons.mp h with rfl | h
      · exact .inr ⟨rfl, Nat.le_refl s⟩
      · exact .inl h

theorem mem_keepBefore {s : Nat} {t q o : Op} {before : List Op} (h : o ∈ keepBefore s t q before) :
    o ∈ before ∨ (o.kind = .keep ∧ s ≤ o.oldLen) := by
  cases before with
  | nil =>
    rw [keepBefore, List.mem_singleton] at h
    exact .inr (h ▸ ⟨rfl, Nat.le_refl s⟩)
  | cons p rest =>
    rw [keepBefore] at h
    split at h
    next hp =>
      rcases List.mem_cons.mp h with rfl | h
      · exact .inr ⟨hp, Nat.le_add_left s p.oldLen⟩
      · exact .inl (List.mem_cons_of_mem p h)
    next =>
      rcases List.mem_cons.mp h with rfl | h
      · exact .inr ⟨rfl, Nat.le_refl s⟩
      · exact .inl h

theorem mem_keptFront {s : Nat} {p o : Op} (h : o ∈ keptFront s p) :
    o.kind = p.kind ∧ 0 < o.oldLen := by
  rw [keptFront] at h
  split at h
  · cases h
  · rw [List.mem_singleton] at h
    rw [h]
    exact ⟨rfl, by simp only; omega⟩

theorem mem_keptBack {s : Nat} {q o : Op} (h : o ∈ keptBack s q) : o.kind = q.kind ∧ 0 < o.oldLen := by
  rw [keptBack] at h
  split at h
  · cases h
  · rw [List.mem_singleton] at h
    rw [h]
    exact ⟨rfl, by simp only; omega⟩

variable [DecidableEq α]

/-- **A step keeps what holds of every operation**, if it holds of kept runs with lines, of runs that
are joined and of insertions wherever they stand. -/
theorem Move.all {P : Op → Prop} (h : Move a b ops ops')
    (hkeep : ∀ op : Op, op.kind = .keep → 0 < op.oldLen → P op)
    (hjoin : ∀ p t : Op, P p → P t → P (p.extend t))
    (hslide : ∀ (t : Op) (old new : Nat), t.kind = .insert → P t → P { t with old := old, new := new })
    (hall : ∀ op ∈ ops, P op) : ∀ op ∈ ops', P op := by
  intro o ho
  cases h with
  | @skip front back p hp hlen =>
    refine hall o ?_
    rcases List.mem_append.mp ho with ho | ho
    · exact List.mem_append_left _ ho
    · exact List.mem_append_right _ (List.mem_cons_of_mem p ho)
  | @join front back p t ht hkind =>
    rcases List.mem_append.mp ho with ho | ho
    · exact hall o (List.mem_append_left _ ho)
    rcases List.mem_cons.mp ho with rfl | ho
    · exact hjoin p t (hall p (by simp)) (hall t (by simp))
    · exact hall o (by simp [ho])
  | @swap front back p t hp ht hkind =>
    refine hall o ?_
    simp only [List.mem_append, List.mem_cons] at ho ⊢
    exact ho.imp_right or_left_comm.mp
  | @slideUp front after p t s hs hpos hp ht =>
    rcases List.mem_append.mp ho with ho | ho
    · exact hall o (List.mem_append_left _ ho)
    rcases List.mem_append.mp ho with ho | ho
    · obtain ⟨hkind, hlen⟩ := mem_keptFront ho
      exact hkeep o (hkind.trans hp) hlen
    rcases List.mem_cons.mp ho with rfl | ho
    · exact hslide t _ _ ht (hall t (by simp))
    rcases mem_keepAfter ho with ho | ⟨hkind, hlen⟩
    · exact hall o (by simp [ho])
    · exact hkeep o hkind (by omega)
  | @slideDown before rest t q s hs hpos hq ht =>
    rcases List.mem_append.mp ho with ho | ho
    · rcases mem_keepBefore (List.mem_reverse.mp ho) with ho | ⟨hkind, hlen⟩
      · exact hall o (List.mem_append_left _ (List.mem_reverse.mpr ho))
      · exact hkeep o hkind (by omega)
    rcases List.mem_cons.mp ho with rfl | ho
    · exact hslide t _ _ ht (hall t (by simp))
    rcases List.mem_append.mp ho with ho | ho
    · obtain ⟨hkind, hlen⟩ := mem_keptBack ho
      exact hkeep o (hkind.trans hq) hlen
    · exact hall o (by simp [ho])

theorem Move.solid (h : Move a b ops ops') (hsolid : Solid ops) : Solid ops' := by
  refine h.all (fun op _ hlen => by omega) (fun p t hp ht => ?_) (fun t _ _ _ ht => ht) hsolid
  simp only [Op.extend]
  omega

theorem Moves.solid (h : Moves a b ops ops') (hw : Walk a b i j ops i' j') (hsolid : Solid ops) :
    Solid ops' :=
  (h.keeps hw (P := Solid) (fun _ _ hmove _ hsolid => hmove.solid hsolid) hsolid).2

/-! ## Room behind insertions -/

theorem keptTotal_keepAfter (s : Nat) (p t : Op) (after : List Op) :
    keptTotal (keepAfter s p t after) = s + keptTotal after := by
  cases after with
  | nil => simp [keepAfter, keptTotal, Op.keep]
  | cons q rest =>
    rw [keepAfter]
    split
    next hq =>
      simp only [keptTotal, hq, if_true]
      omega
    next => simp [keptTotal, Op.keep]

theorem within_keepAfter {size extra s : Nat} {p t : Op} {after : List Op} :
    Within size extra (keepAfter s p t after) ↔ Within size extra after := by
  cases after with
  | nil => simp [keepAfter, Within, Op.keep]
  | cons q rest =>
    rw [keepAfter]
    split
    next hq => simp [Within, hq]
    next => simp [Within, Op.keep]

theorem within_keepBefore {size extra s : Nat} {t q : Op} {before : List Op} :
    Within size extra (keepBefore s t q before).reverse ↔ Within size (s + extra) before.reverse := by
  cases before with
  | nil => simp [keepBefore, Within, Op.keep]
  | cons p rest =>
    rw [keepBefore]
    split
    next hp =>
      simp only [List.reverse_cons, within_append, Within, keptTotal, hp, if_true, and_true]
      simp [Nat.add_assoc]
    next => simp [within_append, Within, keptTotal, Op.keep, Nat.add_assoc]

theorem keptTotal_keptFront {s : Nat} {p : Op} (hp : p.kind = .keep) :
    keptTotal (keptFront s p) = p.oldLen - s := by
  rw [keptFront]
  split
  · rw [keptTotal]
    omega
  · simp [keptTotal, hp]

theorem within_keptFront {size extra s : Nat} {p : Op} (hp : p.kind = .keep) :
    Within size extra (keptFront s p) := by
  rw [keptFront]
  split <;> simp [Within, hp]

theorem keptTotal_keptBack {s : Nat} {q : Op} (hq : q.kind = .keep) :
    keptTotal (keptBack s q) = q.oldLen - s := by
  rw [keptBack]
  split
  · rw [keptTotal]
    omega
  · simp [keptTotal, hq]

theorem within_keptBack {size extra s : Nat} {q : Op} (hq : q.kind = .keep) :
    Within size extra (keptBack s q) := by
  rw [keptBack]
  split <;> simp [Within, hq]

/-- A step leaves room for the kept lines behind insertions. -/
theorem Move.within (h : Move a b ops ops') (hw : Walk a b i j ops i' j') (hroom : Within i' 0 ops) :
    Within i' 0 ops' := by
  cases h with
  | @skip front back p hp hlen =>
    rw [within_append] at hroom ⊢
    simpa [Within, keptTotal, hp, hlen] using hroom
  | @join front back p t ht hkind =>
    rw [within_append] at hroom ⊢
    have hp : p.kind ≠ .keep := hkind ▸ ht
    simp only [Within, keptTotal, hp, ht, if_false, Op.extend, Nat.zero_add] at hroom ⊢
    exact ⟨hroom.1, hroom.2.1, hroom.2.2.2⟩
  | @swap front back p t hp ht hkind =>
    rw [within_append] at hroom ⊢
    simp only [Within, keptTotal, hp, ht, if_false, Nat.zero_add] at hroom ⊢
    exact ⟨hroom.1, hroom.2.2.1, hroom.2.1, hroom.2.2.2⟩
  | @slideUp front after p t s hs hpos hp ht =>
    have hle := commonEnd_le a b p.old (p.old + p.oldLen) t.new (t.new + t.newLen)
    have hkept := hw.keptTotal_le
    rw [keptTotal_append] at hkept
    rw [within_append] at hroom ⊢
    simp only [within_append, Within, keptTotal, keptTotal_append, keptTotal_keepAfter,
      within_keepAfter, keptTotal_keptFront hp, within_keptFront hp, hp, ht, if_true, Nat.add_zero,
      true_and] at hroom hkept ⊢
    simp only [reduceCtorEq, if_false, Nat.zero_add] at hroom hkept ⊢
    obtain ⟨hbefore, -, ht', hafter⟩ := hroom
    have hsum : p.oldLen - s + (s + keptTotal after) = p.oldLen + keptTotal after := by omega
    rw [hsum]
    refine ⟨hbefore, fun _ => ?_, hafter⟩
    have hold := ht' trivial
    omega
  | @slideDown before rest t q s hs hpos hq ht =>
    have hle := commonStart_le a b q.old (q.old + q.oldLen) t.new (t.new + t.newLen)
    rw [within_append] at hroom ⊢
    simp only [within_append, within_keepBefore, Within, keptTotal, keptTotal_append,
      keptTotal_keptBack hq, within_keptBack hq, hq, ht, if_true, Nat.add_zero, true_and] at hroom ⊢
    simp only [reduceCtorEq, if_false, Nat.zero_add] at hroom ⊢
    obtain ⟨hbefore, ht', -, hrest⟩ := hroom
    have hsum : s + (q.oldLen - s + keptTotal rest) = q.oldLen + keptTotal rest := by omega
    rw [hsum]
    refine ⟨hbefore, fun _ => ?_, hrest⟩
    have hold := ht' trivial
    omega

/-! ## The first removal -/

/-- The removals of a script. -/
def removals (ops : List Op) : List Op := ops.filter (·.kind = .remove)

theorem removals_append (xs ys : List Op) : removals (xs ++ ys) = removals xs ++ removals ys :=
  List.filter_append xs ys

theorem removals_cons_of_ne {op : Op} (h : op.kind ≠ .remove) (ops : List Op) :
    removals (op :: ops) = removals ops :=
  List.filter_cons_of_neg (by simp [h])

theorem removals_keepAfter (s : Nat) (p t : Op) (after : List Op) :
    removals (keepAfter s p t after) = removals after := by
  cases after with
  | nil => rfl
  | cons q rest =>
    rw [keepAfter]
    split
    next hq => simp [removals, hq]
    next => simp [removals, Op.keep]

theorem removals_keepBefore (s : Nat) (t q : Op) (before : List Op) :
    removals (keepBefore s t q before).reverse = removals before.reverse := by
  cases before with
  | nil => rfl
  | cons p rest =>
    rw [keepBefore]
    split
    next hp => simp [removals, hp]
    next =>
      rw [List.reverse_cons, removals_append, removals_cons_of_ne (by simp [Op.keep])]
      exact List.append_nil _

/-- **A step leaves the first removal where it was found.** Removals are never moved along lines, and
a joined one takes the place of the first of the two. -/
theorem Move.first_removal (h : Move a b ops ops') :
    (removals ops').head?.map (·.new) = (removals ops).head?.map (·.new) := by
  cases h with
  | @skip front back p hp hlen =>
    rw [removals_append, removals_append, removals_cons_of_ne (by simp [hp])]
  | @join front back p t ht hkind =>
    rw [removals_append, removals_append, List.head?_append, List.head?_append, Option.map_or,
      Option.map_or]
    rcases kind_of_ne_keep ht with ht | ht
    · simp [removals, Op.extend, hkind, ht]
    · simp [removals, Op.extend, hkind, ht]
  | @swap front back p t hp ht hkind =>
    have hsame : removals (t :: p :: back) = removals (p :: t :: back) := by
      by_cases hremove : t.kind = .remove
      · simp [removals, hremove, hremove ▸ hkind]
      · simp [removals, hremove, List.filter_cons]
    rw [removals_append, removals_append, hsame]
  | @slideUp front after p t s hs hpos hp ht =>
    have hfront : removals (keptFront s p) = [] := by
      refine List.filter_eq_nil_iff.mpr fun o ho => ?_
      simp [(mem_keptFront ho).1, hp]
    rw [removals_append, removals_append, removals_append, hfront, List.nil_append,
      removals_cons_of_ne (by simp [ht]), removals_cons_of_ne (by simp [hp]),
      removals_cons_of_ne (by simp [ht]), removals_keepAfter]
  | @slideDown before rest t q s hs hpos hq ht =>
    have hback : removals (keptBack s q) = [] := by
      refine List.filter_eq_nil_iff.mpr fun o ho => ?_
      simp [(mem_keptBack ho).1, hq]
    rw [removals_append, removals_append, removals_keepBefore, removals_cons_of_ne (by simp [ht]),
      removals_append, hback, List.nil_append, removals_cons_of_ne (by simp [ht]),
      removals_cons_of_ne (by simp [hq])]

end LintGate.Diff
