/-
The front of a compacted script.

A hunk behind kept lines takes its header from them, and their places are right. The hunk at
the front of a script has none behind it, and takes its header from its own operations. This
file says when that is right.

Sequences that begin with the same line have a compacted script that begins by keeping it
(`compact_front`). The obstacle is an insertion that moves up past everything kept at the
front: it leaves the script without a kept front, and with a stale place, until it is moved
down again. So the front is followed through both moves at once (`moves_front`).

For other sequences no line is ever kept in front, and each step leaves the front right: the
first run stands at the start of the old side unless the first old line is removed
(`Move.frontRight`). On the new side the first removal stands at the start as well, unless
the script was found to begin with an insertion. That exception is real. The two runs have
changed places then, and the removal has kept the place it was found at.

`compact_positioned` collects all that is known of the places in a compacted script.
-/
import LintGate.Proofs.Diff.Places

set_option autoImplicit false

namespace LintGate.Diff

variable {α : Type} {a b : Array α} {i j i' j' : Nat} {ops ops' : List Op}

/-! ## The front of a script -/

/-- What is done with the first old line: the kind of the first operation that is no insertion. -/
def firstStay : List Op → Option Kind
  | [] => none
  | op :: ops => if op.kind = .insert then firstStay ops else some op.kind

theorem firstStay_append (xs ys : List Op) :
    firstStay (xs ++ ys) = (firstStay xs).or (firstStay ys) := by
  induction xs with
  | nil => rfl
  | cons op xs ih =>
    rw [List.cons_append, firstStay, firstStay, ih]
    split <;> rfl

theorem firstStay_keepAfter (s : Nat) (p t : Op) (after : List Op) :
    firstStay (keepAfter s p t after) = some .keep := by
  cases after with
  | nil => rfl
  | cons q rest =>
    rw [keepAfter]
    split
    next hq => simp [firstStay, hq]
    next => rfl

theorem firstStay_keepBefore (s : Nat) (t q : Op) (before : List Op) :
    firstStay (keepBefore s t q before).reverse = (firstStay before.reverse).or (some .keep) := by
  cases before with
  | nil => rfl
  | cons p rest =>
    rw [keepBefore]
    split
    next hp =>
      rw [List.reverse_cons, List.reverse_cons, firstStay_append, firstStay_append, Option.or_assoc]
      simp [firstStay, hp]
    next =>
      rw [List.reverse_cons, firstStay_append]
      rfl

theorem keepBefore_ne_nil (s : Nat) (t q : Op) (before : List Op) : keepBefore s t q before ≠ [] := by
  cases before with
  | nil => exact List.cons_ne_nil _ _
  | cons p rest =>
    rw [keepBefore]
    split <;> exact List.cons_ne_nil _ _

/-- Keeping lines behind some operations does not touch the first of them, unless it keeps lines. -/
theorem head?_keepBefore {s : Nat} {t q op : Op} {before : List Op}
    (h : (keepBefore s t q before).reverse.head? = some op) :
    op.kind = .keep ∨ before.reverse.head? = some op := by
  rw [List.head?_reverse] at h ⊢
  cases before with
  | nil =>
    rw [keepBefore, List.getLast?_singleton] at h
    exact .inl (Option.some.inj h ▸ rfl)
  | cons p rest =>
    rw [keepBefore] at h
    split at h
    next hp =>
      cases rest with
      | nil =>
        rw [List.getLast?_singleton] at h
        exact .inl (Option.some.inj h ▸ hp)
      | cons r rest => exact .inr h
    next => exact .inr h

/-- The script begins by keeping lines. -/
def BeginsKept (ops : List Op) : Prop := ∃ op ∈ ops.head?, op.kind = .keep

theorem BeginsKept.append {xs : List Op} (h : BeginsKept xs) (ys : List Op) : BeginsKept (xs ++ ys) := by
  obtain ⟨op, hop, hkind⟩ := h
  refine ⟨op, ?_, hkind⟩
  rw [List.head?_append, Option.mem_def.mp hop]
  rfl

theorem beginsKept_concat {xs : List Op} {op : Op} :
    BeginsKept (xs ++ [op]) ↔ BeginsKept xs ∨ (xs = [] ∧ op.kind = .keep) := by
  cases xs with
  | nil => simp [BeginsKept]
  | cons x xs => simp [BeginsKept]

theorem beginsKept_keepAfter (s : Nat) (p t : Op) (after : List Op) :
    BeginsKept (keepAfter s p t after) := by
  cases after with
  | nil => exact ⟨_, rfl, rfl⟩
  | cons q rest =>
    rw [keepAfter]
    split
    next hq => exact ⟨_, rfl, hq⟩
    next => exact ⟨_, rfl, rfl⟩

theorem BeginsKept.keepBefore {before : List Op} (h : before = [] ∨ BeginsKept before.reverse)
    (s : Nat) (t q : Op) : BeginsKept (keepBefore s t q before).reverse := by
  cases before with
  | nil => exact ⟨_, rfl, rfl⟩
  | cons p rest =>
    have hfront := h.resolve_left (List.cons_ne_nil p rest)
    rw [Diff.keepBefore]
    split
    next hp =>
      rw [List.reverse_cons, beginsKept_concat] at hfront ⊢
      exact hfront.imp_right fun hnil => ⟨hnil.1, hp⟩
    next =>
      rw [List.reverse_cons]
      exact hfront.append _

/-- Where every run has lines, so has a kept one on either side. -/
theorem Walk.oldLen_pos {op : Op} (h : Walk a b i j ops i' j') (hsolid : Solid ops) (hop : op ∈ ops)
    (hkeep : op.kind = .keep) : 0 < op.oldLen := by
  obtain ⟨x, y, hfits⟩ := h.fits_of_mem hop
  have hlen := ((fits_of_keep hkeep).mp hfits).2.2.1
  have hpos := hsolid op hop
  omega

/-- Whether two sequences begin with the same line. -/
def SameFront (a b : Array α) : Prop := 0 < a.size ∧ 0 < b.size ∧ a[0]? = b[0]?

/-- A walk from the starts that begins by keeping lines. -/
theorem Walk.sameFront {op : Op} {rest : List Op} (h : Walk a b 0 0 (op :: rest) a.size b.size)
    (hop : op.kind = .keep) (hlen : 0 < op.oldLen + op.newLen) : SameFront a b := by
  obtain ⟨-, -, hsame, hagree⟩ := (fits_of_keep hop).mp h.1
  have hle := h.2.le
  exact ⟨by omega, by omega, hagree 0 (by omega)⟩

/-- A straight walk from the starts that begins by keeping lines is one of such sequences. -/
theorem Straight.sameFront (h : Straight a b 0 0 ops a.size b.size) (hkept : BeginsKept ops) :
    SameFront a b := by
  obtain ⟨op, hop, hkeep⟩ := hkept
  obtain ⟨rest, rfl⟩ := List.head?_eq_some_iff.mp hop
  exact h.walk.sameFront hkeep (h.of_mem List.mem_cons_self).2.2

theorem Straight.front (h : Straight a b 0 0 ops i' j') :
    ∀ op ∈ ops.head?, op.kind ≠ .keep → op.old = 0 := by
  intro op hop _
  obtain ⟨rest, rfl⟩ := List.head?_eq_some_iff.mp hop
  exact Nat.le_zero.mp h.2.1.1

/-- A script that does not begin by keeping lines has its first removal at the start of the new side
unless it begins with an insertion. -/
theorem Straight.first_removal (h : Straight a b 0 0 ops i' j') (hfront : ¬BeginsKept ops) {op : Op}
    (hop : op ∈ (removals ops).head?) : op.new ≠ 0 ↔ ops.head?.map (·.kind) = some .insert := by
  cases ops with
  | nil => cases hop
  | cons first rest =>
    obtain ⟨hfits, ⟨-, hnew, hlen⟩, hrest⟩ := h
    have hkind : first.kind ≠ .keep := fun hkeep => hfront ⟨first, rfl, hkeep⟩
    rw [List.head?_cons, Option.map_some, Option.some_inj]
    rcases kind_of_ne_keep hkind with hremove | hinsert
    · have hfirst : removals (first :: rest) = first :: removals rest :=
        List.filter_cons_of_pos (by simp [hremove])
      rw [hfirst] at hop
      obtain rfl : first = op := Option.some.inj hop
      simp [hremove, hnew]
    · rw [removals_cons_of_ne (by simp [hinsert])] at hop
      have hmem : op ∈ rest := (List.mem_filter.mp (List.mem_of_mem_head? hop)).1
      have hplace := hrest.of_mem hmem
      have hnone := ((fits_of_insert hinsert).mp hfits).2
      simp only [hinsert, iff_true]
      omega

variable [DecidableEq α]

/-! ## Steps at the front -/

/-- **A step does the same with the first old line**, if no kept run is empty. -/
theorem Move.firstStay_eq (h : Move a b ops ops') (hsolid : Solid ops)
    (hw : Walk a b i j ops i' j') : firstStay ops' = firstStay ops := by
  cases h with
  | @skip front back p hp hlen =>
    -- there are no empty runs
    exact absurd hlen (Nat.ne_of_gt (hw.oldLen_pos hsolid (by simp) hp))
  | @join front back p t ht hkind =>
    rw [firstStay_append, firstStay_append]
    rcases kind_of_ne_keep ht with ht | ht
    · simp [firstStay, Op.extend, hkind, ht]
    · simp [firstStay, Op.extend, hkind, ht]
  | @swap front back p t hp ht hkind =>
    rw [firstStay_append, firstStay_append]
    rcases kind_of_ne_keep hp with hp | hp <;> rcases kind_of_ne_keep ht with ht | ht <;>
      simp_all [firstStay]
  | @slideUp front after p t s hs hpos hp ht =>
    have hinside : firstStay (keptFront s p ++ { t with old := t.old - s, new := t.new - s }
        :: keepAfter s p t after) = some .keep := by
      rw [keptFront]
      split
      · rw [List.nil_append, firstStay, if_pos ht, firstStay_keepAfter]
      · rw [List.singleton_append, firstStay, if_neg (by simp [hp]), hp]
    rw [firstStay_append front, hinside, firstStay_append, firstStay, if_neg (by simp [hp]), hp]
  | @slideDown before rest t q s hs hpos hq ht =>
    have hinside : firstStay (t :: q :: rest) = some .keep := by
      rw [firstStay, if_pos ht, firstStay, if_neg (by simp [hq]), hq]
    rw [firstStay_append, firstStay_append, firstStay_keepBefore, Option.or_assoc, hinside]
    rfl

/-- The first operation, if it keeps nothing, stands at the start of the old side, unless the first
old line is removed. -/
def FrontRight (ops : List Op) : Prop :=
  firstStay ops = some .remove ∨ ∀ op ∈ ops.head?, op.kind ≠ .keep → op.old = 0

/-- **Where the sequences begin with different lines, a step leaves the front right.** -/
theorem Move.frontRight (h : Move a b ops ops') (hdiffer : ¬SameFront a b)
    (hsolid : Solid ops) (hw : Walk a b 0 0 ops a.size b.size)
    (hright : FrontRight ops) : FrontRight ops' := by
  rcases hright with hremove | hfront
  · exact .inl ((h.firstStay_eq hsolid hw).trans hremove)
  have hnotkeep : ∀ op rest, ops = op :: rest → op.kind ≠ .keep := by
    rintro op rest rfl hkeep
    exact hdiffer (hw.sameFront hkeep (hsolid op List.mem_cons_self))
  cases h with
  | @skip front back p hp hlen =>
    exact absurd hlen (Nat.ne_of_gt (hw.oldLen_pos hsolid (by simp) hp))
  | @join front back p t ht hkind =>
    refine .inr fun op hop hkeep => ?_
    cases front with
    | nil =>
      obtain rfl : p.extend t = op := Option.some.inj hop
      exact hfront p rfl hkeep
    | cons first front => exact hfront op hop hkeep
  | @swap front back p t hp ht hkind =>
    cases front with
    | nil =>
      -- one of the two is a removal, and no line is kept in front of it
      left
      rcases kind_of_ne_keep hp with hp | hp <;> rcases kind_of_ne_keep ht with ht | ht <;>
        simp_all [firstStay]
    | cons first front => exact .inr fun op hop hkeep => hfront op hop hkeep
  | @slideUp front after p t s hs hpos hp ht =>
    cases front with
    | nil => exact absurd hp (hnotkeep p _ rfl)
    | cons first front => exact .inr fun op hop hkeep => hfront op hop hkeep
  | @slideDown before rest t q s hs hpos hq ht =>
    refine .inr fun op hop hkeep => ?_
    rw [List.head?_append] at hop
    cases hhead : (keepBefore s t q before).reverse.head? with
    | none =>
      rw [List.head?_eq_none_iff, List.reverse_eq_nil_iff] at hhead
      exact absurd hhead (keepBefore_ne_nil s t q before)
    | some first =>
      rw [hhead] at hop
      obtain rfl : first = op := Option.some.inj hop
      have hbefore := (head?_keepBefore hhead).resolve_left hkeep
      refine hfront first ?_ hkeep
      rw [List.head?_append, hbefore]
      rfl

/-! ## A kept front through both moves -/

/-- Moving up leaves a kept front, or ends at the start of the script in front of one. -/
theorem moveUp_front {before after : List Op} {t : Op}
    (hfull : ∀ p ∈ before, p.kind = .keep → p.oldLen ≠ 0)
    (h : BeginsKept before.reverse ∨ (before = [] ∧ BeginsKept after ∧ t.newLen ≠ 0)) :
    BeginsKept (moveUp a b before t after).before.reverse ∨
      ((moveUp a b before t after).before = [] ∧ BeginsKept (moveUp a b before t after).after ∧
        (moveUp a b before t after).current.newLen ≠ 0) := by
  fun_induction moveUp a b before t after with
  | case1 t after => exact h
  | case2 t after p rest hp s hs hlen ih => exact absurd hlen (hfull p List.mem_cons_self hp)
  | case3 t after p rest hp s hs hlen => exact h
  | case4 t after p rest hp s hs t' after' hlen ih =>
    have hfront := h.resolve_right fun hnil => List.cons_ne_nil p rest hnil.1
    rw [List.reverse_cons, beginsKept_concat] at hfront
    refine ih (fun o ho => hfull o (List.mem_cons_of_mem p ho)) (hfront.imp_right ?_)
    rintro ⟨hnil, -⟩
    have hle := commonEnd_le a b p.old (p.old + p.oldLen) t.new (t.new + t.newLen)
    exact ⟨List.reverse_eq_nil_iff.mp hnil, beginsKept_keepAfter s p t after, by simp only [t']; omega⟩
  | case5 t after p rest hp s hs t' after' hlen ih =>
    have hfront := h.resolve_right fun hnil => List.cons_ne_nil p rest hnil.1
    rw [List.reverse_cons, beginsKept_concat] at hfront
    refine ih (fun o ho hkind => ?_) (.inl ?_)
    · rcases List.mem_cons.mp ho with rfl | ho
      · simp only
        omega
      · exact hfull o (List.mem_cons_of_mem p ho) hkind
    · rw [List.reverse_cons, beginsKept_concat]
      exact hfront
  | case6 t after p rest hp hkind ih =>
    have hfront := h.resolve_right fun hnil => List.cons_ne_nil p rest hnil.1
    rw [List.reverse_cons, beginsKept_concat] at hfront
    refine ih (fun o ho => hfull o (List.mem_cons_of_mem p ho)) (.inl ?_)
    exact hfront.resolve_right fun hkept => hp hkept.2
  | case7 t after p rest hp hkind ih =>
    have hfront := h.resolve_right fun hnil => List.cons_ne_nil p rest hnil.1
    rw [List.reverse_cons, beginsKept_concat] at hfront
    refine ih (fun o ho => hfull o (List.mem_cons_of_mem p ho)) (.inl ?_)
    exact hfront.resolve_right fun hkept => hp hkept.2

/-- Moving down leaves a kept front. -/
theorem moveDown_front {before : List Op} (t : Op) (after : List Op) (h : BeginsKept before.reverse) :
    BeginsKept (moveDown a b before t after).before.reverse := by
  fun_induction moveDown a b before t after with
  | case1 before t => exact h
  | case2 before t q rest hq s hs hlen ih => exact ih h
  | case3 before t q rest hq s hs hlen => exact h
  | case4 before t q rest hq s hs t' before' hlen ih => exact ih (.keepBefore (.inr h) s t q)
  | case5 before t q rest hq s hs t' before' hlen q' ih => exact ih (.keepBefore (.inr h) s t q)
  | case6 before t q rest hq hkind ih => exact ih h
  | case7 before t q rest hq hkind ih =>
    refine ih ?_
    rw [List.reverse_cons]
    exact h.append [q]

/-- An insertion in front of equal lines moves down, and leaves some of them in front. -/
theorem moveDown_front_of_slides {t q : Op} {rest : List Op} (hq : q.kind = .keep)
    (hslides : commonStart a b q.old (q.old + q.oldLen) t.new (t.new + t.newLen) ≠ 0) :
    BeginsKept (moveDown a b [] t (q :: rest)).before.reverse := by
  rw [moveDown]
  simp only [hq, if_true, if_neg hslides]
  split
  · exact moveDown_front _ _ (.keepBefore (.inl rfl) _ t q)
  · exact moveDown_front _ _ (.keepBefore (.inl rfl) _ t q)

/-- **Where the sequences begin with the same line, one move up and down leaves a kept front.** -/
theorem moves_front {before after : List Op} {t : Op} (hsame : SameFront a b) (ht : t.kind ≠ .keep)
    (hw : Walk a b 0 0 (before.reverse ++ t :: after) a.size b.size)
    (hsolid : Solid (before.reverse ++ t :: after))
    (hkept : BeginsKept (before.reverse ++ t :: after)) {up : Focus}
    (hup : up = moveUp a b before t after) :
    BeginsKept (moveDown a b up.before up.current up.after).toList := by
  refine BeginsKept.append ?_ _
  have hmoves : Moves a b (before.reverse ++ t :: after) up.toList := hup ▸ moveUp_moves ht hw
  have hkind : up.current.kind = t.kind := hup ▸ moveUp_kind a b before t after
  have hfull : ∀ p ∈ before, p.kind = .keep → p.oldLen ≠ 0 := fun p hp hkeep =>
    Nat.ne_of_gt (hw.oldLen_pos hsolid (List.mem_append_left _ (List.mem_reverse.mpr hp)) hkeep)
  have hfront : BeginsKept before.reverse := by
    cases hbefore : before.reverse with
    | nil =>
      rw [hbefore] at hkept
      obtain ⟨op, hop, hkeep⟩ := hkept
      exact absurd (Option.some.inj hop ▸ hkeep) ht
    | cons op rest =>
      rw [hbefore] at hkept
      exact hkept
  rcases hup ▸ moveUp_front hfull (.inl hfront) with hfront | ⟨hnil, hafter, hlen⟩
  · exact moveDown_front _ _ hfront
  -- the run stands at the start, and the line kept behind it is the first one of both sides
  obtain ⟨q, hq, hqkind⟩ := hafter
  obtain ⟨rest, hrest⟩ := List.head?_eq_some_iff.mp hq
  have hw' := hmoves.walk hw
  have hsolid' := hmoves.solid hw hsolid
  rw [Focus.toList, hnil, hrest, List.reverse_nil, List.nil_append] at hw' hsolid'
  obtain ⟨hfits, hfits', -⟩ := hw'
  obtain ⟨-, hnew, hold⟩ := fits_of_new_lines hfits (hkind ▸ ht) hlen
  obtain ⟨hqold, -, hqlen, -⟩ := (fits_of_keep hqkind).mp hfits'
  have hpos := hsolid' q (by simp)
  rw [hnil, hrest]
  refine moveDown_front_of_slides hqkind ?_
  rw [commonStart, if_pos]
  · exact Nat.succ_ne_zero _
  · rw [hqold, hnew, hold]
    exact ⟨by omega, by omega, hsame.2.2⟩

/-- And so does a pass. -/
theorem compactKind_front {kind : Kind} (hsame : SameFront a b) (hkind : kind ≠ .keep) (left : Nat)
    (before after : List Op) (hw : Walk a b 0 0 (before.reverse ++ after) a.size b.size)
    (hsolid : Solid (before.reverse ++ after)) (hkept : BeginsKept (before.reverse ++ after)) :
    BeginsKept (compactKind a b kind left before after) := by
  fun_induction compactKind a b kind left before after with
  | case1 before after => exact hkept
  | case2 left before =>
    rw [List.append_nil] at hkept
    exact hkept
  | case3 left before op after hop up down ih =>
    have hsettle : Moves a b (before.reverse ++ op :: after) down.toList :=
      settle_moves (hop ▸ hkind) hw
    have hfront : BeginsKept down.toList := moves_front hsame (hop ▸ hkind) hw hsolid hkept rfl
    rw [List.reverse_cons, List.append_assoc] at ih
    exact ih (hsettle.walk hw) (hsettle.solid hw hsolid) hfront
  | case4 left before op after hop ih =>
    rw [List.reverse_cons, List.append_assoc] at ih
    exact ih hw hsolid hkept

/-- **Sequences that begin with the same line keep it in front through the compaction.** -/
theorem compact_front (hsame : SameFront a b) (hw : Walk a b 0 0 ops a.size b.size)
    (hsolid : Solid ops) (hkept : BeginsKept ops) : BeginsKept (compact a b ops) := by
  have hremoved : Moves a b ops (compactKind a b .remove (passBound .remove ops) [] ops) :=
    compactKind_moves (by decide) _ [] ops hw
  have hfront : BeginsKept (compactKind a b .remove (passBound .remove ops) [] ops) :=
    compactKind_front hsame (by decide) _ [] ops hw hsolid hkept
  exact compactKind_front hsame (by decide) _ [] _ (hremoved.walk hw) (hremoved.solid hw hsolid) hfront

/-! ## Compacted scripts -/

/-- What is known of the places in a compacted script. -/
structure Positioned (a b : Array α) (ops : List Op) : Prop where
  walk : Walk a b 0 0 ops a.size b.size
  solid : Solid ops
  /-- Insertions stand within the old side. -/
  insertion_le : ∀ op ∈ ops, op.kind = .insert → op.old ≤ a.size
  /-- Removals stand within the new side. -/
  removal_le : ∀ op ∈ ops, op.kind = .remove → op.new ≤ b.size
  /-- Where no line is kept in front and none removed there, the first run stands at the start. -/
  front : ¬BeginsKept ops → firstStay ops = some .remove ∨ ∀ op ∈ ops.head?, op.old = 0
  /-- Where no line is kept in front, the first removal stands at the start of the new side, unless
  the script was found to begin with an insertion. -/
  first_removal : ¬BeginsKept ops → ∀ op ∈ (removals ops).head?,
    (op.new ≠ 0 ↔ (script a b).head?.map (·.kind) = some .insert)

/-- The script of sequences that begin with the same line keeps it in front. -/
theorem script_beginsKept (h : SameFront a b) : BeginsKept (script a b) := by
  have hcommon : commonStart a b 0 a.size 0 b.size ≠ 0 := by
    rw [commonStart, if_pos ⟨h.1, h.2.1, h.2.2⟩]
    exact Nat.succ_ne_zero _
  rw [script, scriptBetween]
  simp only [keepRun, if_neg hcommon]
  exact ⟨_, rfl, rfl⟩

/-- **What compaction leaves right.** -/
theorem compact_positioned (a b : Array α) : Positioned a b (compact a b (script a b)) := by
  have hstraight := script_straight a b
  have hmoves : Moves a b (script a b) (compact a b (script a b)) := compact_moves hstraight.walk
  have hroom : Within a.size 0 (compact a b (script a b)) :=
    (hmoves.keeps hstraight.walk (P := Within a.size 0)
      (fun _ _ hmove hw hroom => hmove.within hw hroom) hstraight.within).2
  have hremovals : ∀ op ∈ compact a b (script a b), op.kind = .remove → op.new ≤ b.size := by
    refine (hmoves.keeps hstraight.walk (P := fun ops => ∀ op ∈ ops, op.kind = .remove → op.new ≤ b.size)
      (fun _ _ hmove _ hall => ?_) fun op hop _ => (hstraight.of_mem hop).2.1).2
    refine hmove.all (fun op hkeep _ hremove => ?_) (fun p t hp _ => hp)
      (fun t _ _ ht _ hremove => ?_) hall
    · exact absurd (hkeep.symm.trans hremove) (by decide)
    · exact absurd (ht.symm.trans hremove) (by decide)
  have hfirst : (removals (compact a b (script a b))).head?.map (·.new)
      = (removals (script a b)).head?.map (·.new) :=
    (hmoves.keeps hstraight.walk
      (P := fun ops => (removals ops).head?.map (·.new) = (removals (script a b)).head?.map (·.new))
      (fun _ _ hmove _ hfirst => hmove.first_removal.trans hfirst) rfl).2
  -- a script that begins otherwise than by keeping lines is one of sequences that begin so
  have hdiffer : ¬BeginsKept (compact a b (script a b)) → ¬SameFront a b :=
    fun hfront hsame => hfront
      (compact_front hsame hstraight.walk hstraight.solid (script_beginsKept hsame))
  refine ⟨hmoves.walk hstraight.walk, hmoves.solid hstraight.walk hstraight.solid,
    fun op hop hkind => hroom.le_of_mem hop hkind, hremovals, fun hfront => ?_, fun hfront op hop => ?_⟩
  · have hright : FrontRight (compact a b (script a b)) :=
      (hmoves.keeps hstraight.walk (P := fun ops => Solid ops ∧ FrontRight ops)
        (fun _ _ hmove hw h =>
          ⟨hmove.solid h.1, hmove.frontRight (hdiffer hfront) h.1 hw h.2⟩)
        ⟨hstraight.solid, .inr hstraight.front⟩).2.2
    refine hright.imp_right fun hplace op hop => hplace op hop fun hkeep => ?_
    exact hfront ⟨op, hop, hkeep⟩
  · rw [Option.mem_def.mp hop, Option.map_some] at hfirst
    obtain ⟨found, hfound, hplace⟩ := Option.map_eq_some_iff.mp hfirst.symm
    rw [← hplace]
    refine hstraight.first_removal (fun hkept => ?_) hfound
    exact hdiffer hfront (hstraight.sameFront hkept)

end LintGate.Diff
