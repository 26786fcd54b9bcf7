/-
Compaction moves by local steps.

Moving a run along equal lines, joining two runs of one kind and letting two runs of
different kinds change places are all local: they replace a few neighbouring operations.
`Move` lists these steps, and `compact_moves` says that the compaction of a walk consists of
them. Both the moves up and down and the passes over a script are gone through once, here;
whatever each step keeps, the compaction keeps (`Moves.keeps`). Walks are the first thing
of that sort, `compact_walk`.

Only insertions are ever moved along equal lines. The lines compared are those of the
run on the new side, of which a removal has none.
-/
import LintGate.Diff.Compaction
import LintGate.Proofs.Diff.Walk
import Mathlib.Logic.Relation

set_option autoImplicit false

namespace LintGate.Diff

variable {α : Type} {a b : Array α} {i j i' j' u v : Nat}

/-! ## Operations by their kind -/

theorem fits_of_keep {op : Op} (h : op.kind = .keep) :
    op.Fits a b i j ↔ op.old = i ∧ op.new = j ∧ op.newLen = op.oldLen ∧ Agree a b i j op.oldLen := by
  simp only [Op.Fits, h]

theorem fits_of_remove {op : Op} (h : op.kind = .remove) :
    op.Fits a b i j ↔ op.old = i ∧ op.newLen = 0 := by
  simp only [Op.Fits, h]

theorem fits_of_insert {op : Op} (h : op.kind = .insert) :
    op.Fits a b i j ↔ op.new = j ∧ op.oldLen = 0 := by
  simp only [Op.Fits, h]

/-- The kinds that change something. -/
theorem kind_of_ne_keep {op : Op} (h : op.kind ≠ .keep) : op.kind = .remove ∨ op.kind = .insert := by
  cases hkind : op.kind with
  | keep => exact absurd hkind h
  | remove => exact .inl rfl
  | insert => exact .inr rfl

/-! ## Local steps -/

/-- What replaces the end of a script may be anything that walks between the same places. -/
theorem Walk.replace_back {front ops ops' : List Op}
    (h : Walk a b i j (front ++ ops) i' j')
    (hops : ∀ u v, Walk a b u v ops i' j' → Walk a b u v ops' i' j') :
    Walk a b i j (front ++ ops') i' j' := by
  obtain ⟨u, v, hfront, hback⟩ := walk_append.mp h
  exact walk_append.mpr ⟨u, v, hfront, hops u v hback⟩

/-- A kept run without lines can go. -/
theorem Walk.skip_empty {p : Op} {ops : List Op} (h : Walk a b u v (p :: ops) i' j')
    (hp : p.kind = .keep) (hlen : p.oldLen = 0) : Walk a b u v ops i' j' := by
  obtain ⟨hfits, hops⟩ := h
  obtain ⟨-, -, hnew, -⟩ := (fits_of_keep hp).mp hfits
  rw [hnew, hlen, Nat.add_zero, Nat.add_zero] at hops
  exact hops

/-- Two neighbouring runs of one kind can be joined. -/
theorem Walk.join {p t : Op} {ops : List Op} (h : Walk a b u v (p :: t :: ops) i' j')
    (ht : t.kind ≠ .keep) (hkind : p.kind = t.kind) : Walk a b u v (p.extend t :: ops) i' j' := by
  obtain ⟨hp, ht', hops⟩ := h
  refine ⟨?_, ?_⟩
  · rcases kind_of_ne_keep ht with ht | ht
    · obtain ⟨hold, hlen⟩ := (fits_of_remove (hkind.trans ht)).mp hp
      obtain ⟨-, hlen'⟩ := (fits_of_remove ht).mp ht'
      refine (fits_of_remove (by exact hkind.trans ht)).mpr ⟨hold, ?_⟩
      simp only [Op.extend]
      omega
    · obtain ⟨hnew, hlen⟩ := (fits_of_insert (hkind.trans ht)).mp hp
      obtain ⟨-, hlen'⟩ := (fits_of_insert ht).mp ht'
      refine (fits_of_insert (by exact hkind.trans ht)).mpr ⟨hnew, ?_⟩
      simp only [Op.extend]
      omega
  · simp only [Op.extend, ← Nat.add_assoc]
    exact hops

/-- Neighbouring runs of different kinds can change places. -/
theorem Walk.swap {p t : Op} {ops : List Op} (h : Walk a b u v (p :: t :: ops) i' j')
    (hp : p.kind ≠ .keep) (ht : t.kind ≠ .keep) (hkind : p.kind ≠ t.kind) :
    Walk a b u v (t :: p :: ops) i' j' := by
  obtain ⟨hp', ht', hops⟩ := h
  rcases kind_of_ne_keep hp with hp | hp <;> rcases kind_of_ne_keep ht with ht | ht
  · exact absurd (hp.trans ht.symm) hkind
  · obtain ⟨hold, hlen⟩ := (fits_of_remove hp).mp hp'
    obtain ⟨hnew, hlen'⟩ := (fits_of_insert ht).mp ht'
    refine ⟨(fits_of_insert ht).mpr ⟨by omega, hlen'⟩, (fits_of_remove hp).mpr ⟨by omega, hlen⟩, ?_⟩
    rw [Nat.add_right_comm u, Nat.add_right_comm v]
    exact hops
  · obtain ⟨hnew, hlen⟩ := (fits_of_insert hp).mp hp'
    obtain ⟨hold, hlen'⟩ := (fits_of_remove ht).mp ht'
    refine ⟨(fits_of_remove ht).mpr ⟨by omega, hlen'⟩, (fits_of_insert hp).mpr ⟨by omega, hlen⟩, ?_⟩
    rw [Nat.add_right_comm u, Nat.add_right_comm v]
    exact hops
  · exact absurd (hp.trans ht.symm) hkind

/-- A run that can be moved along equal lines takes new lines only. -/
theorem fits_of_new_lines {t : Op} (h : t.Fits a b u v) (ht : t.kind ≠ .keep) (hlen : t.newLen ≠ 0) :
    t.kind = .insert ∧ t.new = v ∧ t.oldLen = 0 := by
  rcases kind_of_ne_keep ht with hkind | hkind
  · exact absurd ((fits_of_remove hkind).mp h).2 hlen
  · exact ⟨hkind, (fits_of_insert hkind).mp h⟩

/-- Kept lines can be put in front of a script whose kept front begins just past them. -/
theorem keepAfter_walk {s : Nat} {p t : Op} {after : List Op} (hu : p.old + p.oldLen = u + s)
    (hv : t.new + t.newLen = v + s) (hagree : Agree a b u v s)
    (h : Walk a b (u + s) (v + s) after i' j') : Walk a b u v (keepAfter s p t after) i' j' := by
  have hold : p.old + p.oldLen - s = u := by omega
  have hnew : t.new + t.newLen - s = v := by omega
  cases after with
  | nil =>
    simp only [keepAfter, hold, hnew]
    exact ⟨fits_keep hagree, h⟩
  | cons q rest =>
    simp only [keepAfter, hold, hnew]
    split
    next hq =>
      -- the kept run behind takes the lines in
      obtain ⟨hfits, hrest⟩ := h
      obtain ⟨hold', hnew', hlen, hagree'⟩ := (fits_of_keep hq).mp hfits
      refine ⟨(fits_of_keep (by exact hq)).mpr ⟨?_, ?_, ?_, ?_⟩, ?_⟩
      · simp only [hold', Nat.add_sub_cancel]
      · simp only [hnew', Nat.add_sub_cancel]
      · simp only [hlen]
      · rw [Nat.add_comm q.oldLen, agree_add]
        exact ⟨hagree, hagree'⟩
      · rw [Nat.add_comm q.oldLen, Nat.add_comm q.newLen, ← Nat.add_assoc, ← Nat.add_assoc]
        exact hrest
    next => exact ⟨fits_keep hagree, h⟩

/-- Kept lines can be put behind a script that ends just in front of them. -/
theorem keepBefore_walk {s : Nat} {t q : Op} {before : List Op} (hu : q.old = u) (hv : t.new = v)
    (hagree : Agree a b u v s) (h : Walk a b i j before.reverse u v) :
    Walk a b i j (keepBefore s t q before).reverse (u + s) (v + s) := by
  have hlast : Walk a b u v [Op.keep q.old t.new s] (u + s) (v + s) := by
    rw [hu, hv]
    exact ⟨fits_keep hagree, rfl, rfl⟩
  cases before with
  | nil =>
    obtain ⟨rfl, rfl⟩ := h
    exact hlast
  | cons p rest =>
    simp only [keepBefore]
    split
    next hp =>
      -- the kept run in front takes the lines in
      rw [List.reverse_cons] at h ⊢
      obtain ⟨x, y, hrest, hfits, rfl, rfl⟩ := walk_append.mp h
      obtain ⟨hold, hnew, hlen, hagree'⟩ := (fits_of_keep hp).mp hfits
      refine walk_append.mpr ⟨x, y, hrest, (fits_of_keep (by exact hp)).mpr ⟨hold, hnew, ?_, ?_⟩, ?_⟩
      · simp only [hlen]
      · rw [hlen] at hagree
        exact agree_add.mpr ⟨hagree', hagree⟩
      · simp only [walk_nil]
        omega
    next =>
      rw [List.reverse_cons]
      exact walk_append.mpr ⟨u, v, h, hlast⟩

/-! ## Runs along equal lines -/

variable [DecidableEq α]

/-- A run moved up along equal lines. -/
theorem Walk.slide_up {p t : Op} {after : List Op} {s : Nat}
    (hs : s = commonEnd a b p.old (p.old + p.oldLen) t.new (t.new + t.newLen)) (hpos : s ≠ 0)
    (h : Walk a b u v (p :: t :: after) i' j') (hp : p.kind = .keep) (ht : t.kind ≠ .keep) :
    Walk a b u v ({ p with oldLen := p.oldLen - s, newLen := p.newLen - s }
      :: { t with old := t.old - s, new := t.new - s } :: keepAfter s p t after) i' j' := by
  obtain ⟨hfits, hfits', hafter⟩ := h
  obtain ⟨hold, hnew, hlen, hagree⟩ := (fits_of_keep hp).mp hfits
  have hle := commonEnd_le a b p.old (p.old + p.oldLen) t.new (t.new + t.newLen)
  have hend := agree_commonEnd a b p.old (p.old + p.oldLen) t.new (t.new + t.newLen)
  rw [← hs] at hle hend
  obtain ⟨hkind, htnew, htlen⟩ := fits_of_new_lines hfits' ht (by omega)
  -- the last `s` lines of the kept run move behind the moved one
  have hsplit : p.oldLen = p.oldLen - s + s := by omega
  rw [hsplit, agree_add] at hagree
  refine ⟨(fits_of_keep (by exact hp)).mpr ⟨hold, hnew, by simp only [hlen], hagree.1⟩,
    (fits_of_insert (by exact hkind)).mpr ⟨?_, htlen⟩, ?_⟩
  · simp only [hlen] at htnew ⊢
    omega
  · simp only [htlen, hlen, Nat.add_zero]
    refine keepAfter_walk (by omega) (by omega) ?_ ?_
    · have hu : p.old + p.oldLen - s = u + (p.oldLen - s) := by omega
      have hv : t.new + t.newLen - s = v + (p.oldLen - s) + t.newLen := by omega
      rwa [hu, hv] at hend
    · have hu : u + p.oldLen + t.oldLen = u + (p.oldLen - s) + s := by omega
      have hv : v + p.newLen + t.newLen = v + (p.oldLen - s) + t.newLen + s := by omega
      rwa [hu, hv] at hafter

/-- A run moved down along equal lines. -/
theorem Walk.slide_down {before rest : List Op} {t q : Op} {s : Nat}
    (hs : s = commonStart a b q.old (q.old + q.oldLen) t.new (t.new + t.newLen)) (hpos : s ≠ 0)
    (h : Walk a b i j (before.reverse ++ t :: q :: rest) i' j') (ht : t.kind ≠ .keep)
    (hq : q.kind = .keep) :
    Walk a b i j ((keepBefore s t q before).reverse
      ++ { t with old := t.old + s, new := t.new + s }
      :: { q with
          old := q.old + s, oldLen := q.oldLen - s, new := q.new + s, newLen := q.newLen - s }
      :: rest) i' j' := by
  obtain ⟨u, v, hbefore, hfits, hfits', hrest⟩ := walk_append.mp h
  obtain ⟨hold, hnew, hlen, hagree⟩ := (fits_of_keep hq).mp hfits'
  have hle := commonStart_le a b q.old (q.old + q.oldLen) t.new (t.new + t.newLen)
  have hstart := agree_commonStart a b q.old (q.old + q.oldLen) t.new (t.new + t.newLen)
  rw [← hs] at hle hstart
  obtain ⟨hkind, htnew, htlen⟩ := fits_of_new_lines hfits ht (by omega)
  rw [htlen, Nat.add_zero] at hold
  rw [htlen, Nat.add_zero] at hagree hrest
  rw [hold, htnew] at hstart
  -- the first `s` lines of the kept run move in front of the moved one
  have hsplit : q.oldLen = s + (q.oldLen - s) := by omega
  rw [hsplit, agree_add] at hagree
  refine walk_append.mpr ⟨u + s, v + s, keepBefore_walk hold htnew hstart hbefore, ?_, ?_, ?_⟩
  · exact (fits_of_insert (by exact hkind)).mpr ⟨by simp only [htnew], htlen⟩
  · refine (fits_of_keep (by exact hq)).mpr ⟨?_, ?_, by simp only [hlen], ?_⟩
    · simp only [hold, htlen, Nat.add_zero]
    · simp only [hnew]
      omega
    · simp only [htlen, Nat.add_zero]
      have hv : v + s + t.newLen = v + t.newLen + s := by omega
      rw [hv]
      exact hagree.2
  · have hu : u + s + t.oldLen + (q.oldLen - s) = u + q.oldLen := by omega
    have hv : v + s + t.newLen + (q.newLen - s) = v + t.newLen + q.newLen := by omega
    simp only [hu, hv]
    exact hrest

/-! ## Steps of the compaction -/

/-- What is left of a kept run in front when `s` lines are taken from its end. -/
def keptFront (s : Nat) (p : Op) : List Op :=
  if p.oldLen ≤ s then [] else [{ p with oldLen := p.oldLen - s, newLen := p.newLen - s }]

/-- What is left of a kept run behind when `s` lines are taken from its start. -/
def keptBack (s : Nat) (q : Op) : List Op :=
  if q.oldLen ≤ s then []
  else [{ q with
    old := q.old + s, oldLen := q.oldLen - s, new := q.new + s, newLen := q.newLen - s }]

/-- A local step of the compaction. -/
inductive Move (a b : Array α) : List Op → List Op → Prop where
  /-- A kept run without lines goes. -/
  | skip {front back : List Op} {p : Op} (hp : p.kind = .keep) (hlen : p.oldLen = 0) :
      Move a b (front ++ p :: back) (front ++ back)
  /-- Two neighbouring runs of one kind are joined. -/
  | join {front back : List Op} {p t : Op} (ht : t.kind ≠ .keep) (hkind : p.kind = t.kind) :
      Move a b (front ++ p :: t :: back) (front ++ p.extend t :: back)
  /-- Neighbouring runs of different kinds change places. -/
  | swap {front back : List Op} {p t : Op} (hp : p.kind ≠ .keep) (ht : t.kind ≠ .keep)
      (hkind : p.kind ≠ t.kind) : Move a b (front ++ p :: t :: back) (front ++ t :: p :: back)
  /-- An insertion moves up along equal lines. -/
  | slideUp {front after : List Op} {p t : Op} {s : Nat}
      (hs : s = commonEnd a b p.old (p.old + p.oldLen) t.new (t.new + t.newLen)) (hpos : s ≠ 0)
      (hp : p.kind = .keep) (ht : t.kind = .insert) :
      Move a b (front ++ p :: t :: after)
        (front ++ (keptFront s p
          ++ { t with old := t.old - s, new := t.new - s } :: keepAfter s p t after))
  /-- An insertion moves down along equal lines. -/
  | slideDown {before rest : List Op} {t q : Op} {s : Nat}
      (hs : s = commonStart a b q.old (q.old + q.oldLen) t.new (t.new + t.newLen)) (hpos : s ≠ 0)
      (hq : q.kind = .keep) (ht : t.kind = .insert) :
      Move a b (before.reverse ++ t :: q :: rest)
        ((keepBefore s t q before).reverse
          ++ { t with old := t.old + s, new := t.new + s } :: (keptBack s q ++ rest))

/-- **A step keeps a walk.** -/
theorem Move.walk {ops ops' : List Op} (h : Move a b ops ops') (hw : Walk a b i j ops i' j') :
    Walk a b i j ops' i' j' := by
  cases h with
  | skip hp hlen => exact hw.replace_back fun u v hback => hback.skip_empty hp hlen
  | join ht hkind => exact hw.replace_back fun u v hback => hback.join ht hkind
  | swap hp ht hkind => exact hw.replace_back fun u v hback => hback.swap hp ht hkind
  | slideUp hs hpos hp ht =>
    refine hw.replace_back fun u v hback => ?_
    have hslid := Walk.slide_up hs hpos hback hp (by simp [ht])
    rw [keptFront]
    split
    · exact hslid.skip_empty hp (by simp only; omega)
    · exact hslid
  | slideDown hs hpos hq ht =>
    refine (Walk.slide_down hs hpos hw (by simp [ht]) hq).replace_back fun u v hback => ?_
    rw [keptBack]
    split
    · exact ⟨hback.1, hback.2.skip_empty hq (by simp only; omega)⟩
    · exact hback

/-- Where a walk has equal lines in front of a run, moving it up along them is a step. -/
theorem Walk.move_up {front after : List Op} {p t : Op} {s : Nat}
    (h : Walk a b i j (front ++ p :: t :: after) i' j')
    (hs : s = commonEnd a b p.old (p.old + p.oldLen) t.new (t.new + t.newLen)) (hpos : s ≠ 0)
    (hp : p.kind = .keep) (ht : t.kind ≠ .keep) :
    Move a b (front ++ p :: t :: after)
      (front ++ (keptFront s p
        ++ { t with old := t.old - s, new := t.new - s } :: keepAfter s p t after)) := by
  have hle := commonEnd_le a b p.old (p.old + p.oldLen) t.new (t.new + t.newLen)
  obtain ⟨u, v, -, -, hfits, -⟩ := walk_append.mp h
  exact .slideUp hs hpos hp (fits_of_new_lines hfits ht (by omega)).1

/-- Where it has them behind a run, so is moving it down. -/
theorem Walk.move_down {before rest : List Op} {t q : Op} {s : Nat}
    (h : Walk a b i j (before.reverse ++ t :: q :: rest) i' j')
    (hs : s = commonStart a b q.old (q.old + q.oldLen) t.new (t.new + t.newLen)) (hpos : s ≠ 0)
    (hq : q.kind = .keep) (ht : t.kind ≠ .keep) :
    Move a b (before.reverse ++ t :: q :: rest)
      ((keepBefore s t q before).reverse
        ++ { t with old := t.old + s, new := t.new + s } :: (keptBack s q ++ rest)) := by
  have hle := commonStart_le a b q.old (q.old + q.oldLen) t.new (t.new + t.newLen)
  obtain ⟨u, v, -, hfits, -⟩ := walk_append.mp h
  exact .slideDown hs hpos hq (fits_of_new_lines hfits ht (by omega)).1

/-- Any number of steps. -/
abbrev Moves (a b : Array α) : List Op → List Op → Prop := Relation.ReflTransGen (Move a b)

/-- **What every step keeps of a walk, any number of steps keeps.** -/
theorem Moves.keeps {ops ops' : List Op} {P : List Op → Prop} (h : Moves a b ops ops')
    (hw : Walk a b i j ops i' j')
    (hstep : ∀ ops ops', Move a b ops ops' → Walk a b i j ops i' j' → P ops → P ops')
    (hP : P ops) : Walk a b i j ops' i' j' ∧ P ops' := by
  induction h with
  | refl => exact ⟨hw, hP⟩
  | tail _ hmove ih => exact ⟨hmove.walk ih.1, hstep _ _ hmove ih.1 ih.2⟩

theorem Moves.walk {ops ops' : List Op} (h : Moves a b ops ops') (hw : Walk a b i j ops i' j') :
    Walk a b i j ops' i' j' :=
  (h.keeps hw (P := fun _ => True) (fun _ _ _ _ _ => trivial) trivial).1

/-! ## Moving up and down -/

/-- **Moving up consists of steps.** -/
theorem moveUp_moves {before after : List Op} {t : Op} (ht : t.kind ≠ .keep)
    (h : Walk a b i j (before.reverse ++ t :: after) i' j') :
    Moves a b (before.reverse ++ t :: after) (moveUp a b before t after).toList := by
  fun_induction moveUp a b before t after with
  | case1 t after => exact .refl
  | case2 t after p rest hp s hs hlen ih =>
    -- an empty kept run in front is dropped
    rw [List.reverse_cons, List.append_assoc] at h ⊢
    have hmove : Move a b (rest.reverse ++ p :: t :: after) (rest.reverse ++ t :: after) :=
      .skip hp hlen
    exact .head hmove (ih ht (hmove.walk h))
  | case3 t after p rest hp s hs hlen => exact .refl
  | case4 t after p rest hp s hs t' after' hlen ih =>
    -- the kept run in front is used up
    rw [List.reverse_cons, List.append_assoc] at h ⊢
    have hmove : Move a b (rest.reverse ++ p :: t :: after)
        (rest.reverse ++ (keptFront s p ++ t' :: after')) := h.move_up rfl hs hp ht
    rw [keptFront, if_pos hlen] at hmove
    exact .head hmove (ih ht (hmove.walk h))
  | case5 t after p rest hp s hs t' after' hlen ih =>
    -- it stays, with fewer lines
    rw [List.reverse_cons, List.append_assoc] at h ih ⊢
    have hmove : Move a b (rest.reverse ++ p :: t :: after)
        (rest.reverse ++ (keptFront s p ++ t' :: after')) := h.move_up rfl hs hp ht
    rw [keptFront, if_neg hlen] at hmove
    exact .head hmove (ih ht (hmove.walk h))
  | case6 t after p rest hp hkind ih =>
    rw [List.reverse_cons, List.append_assoc] at h ⊢
    have hmove : Move a b (rest.reverse ++ p :: t :: after) (rest.reverse ++ p.extend t :: after) :=
      .join ht hkind
    exact .head hmove (ih hp (hmove.walk h))
  | case7 t after p rest hp hkind ih =>
    rw [List.reverse_cons, List.append_assoc] at h ⊢
    have hmove : Move a b (rest.reverse ++ p :: t :: after) (rest.reverse ++ t :: p :: after) :=
      .swap hp ht hkind
    exact .head hmove (ih ht (hmove.walk h))

/-- Moving up does not change what a run does. -/
theorem moveUp_kind (a b : Array α) (before : List Op) (t : Op) (after : List Op) :
    (moveUp a b before t after).current.kind = t.kind := by
  fun_induction moveUp a b before t after with
  | case1 | case3 => rfl
  | case2 _ _ _ _ _ _ _ _ ih => exact ih
  | case4 _ _ _ _ _ _ _ _ _ _ ih => exact ih
  | case5 _ _ _ _ _ _ _ _ _ _ ih => exact ih
  | case6 _ _ _ _ _ hkind ih => exact ih.trans hkind
  | case7 _ _ _ _ _ _ ih => exact ih

/-- **Moving down consists of steps.** -/
theorem moveDown_moves {before after : List Op} {t : Op} (ht : t.kind ≠ .keep)
    (h : Walk a b i j (before.reverse ++ t :: after) i' j') :
    Moves a b (before.reverse ++ t :: after) (moveDown a b before t after).toList := by
  fun_induction moveDown a b before t after with
  | case1 before t => exact .refl
  | case2 before t q rest hq s hs hlen ih =>
    -- an empty kept run behind is dropped
    have hmove : Move a b ((before.reverse ++ [t]) ++ q :: rest) ((before.reverse ++ [t]) ++ rest) :=
      .skip hq hlen
    rw [List.append_assoc, List.append_assoc, List.singleton_append, List.singleton_append] at hmove
    exact .head hmove (ih ht (hmove.walk h))
  | case3 before t q rest hq s hs hlen => exact .refl
  | case4 before t q rest hq s hs t' before' hlen ih =>
    -- the kept run behind is used up
    have hmove : Move a b (before.reverse ++ t :: q :: rest)
        (before'.reverse ++ t' :: (keptBack s q ++ rest)) := h.move_down rfl hs hq ht
    rw [keptBack, if_pos hlen] at hmove
    exact .head hmove (ih ht (hmove.walk h))
  | case5 before t q rest hq s hs t' before' hlen q' ih =>
    -- it stays, with fewer lines
    have hmove : Move a b (before.reverse ++ t :: q :: rest)
        (before'.reverse ++ t' :: (keptBack s q ++ rest)) := h.move_down rfl hs hq ht
    rw [keptBack, if_neg hlen] at hmove
    exact .head hmove (ih ht (hmove.walk h))
  | case6 before t q rest hq hkind ih =>
    have hmove : Move a b (before.reverse ++ t :: q :: rest) (before.reverse ++ t.extend q :: rest) :=
      .join (hkind ▸ ht) hkind.symm
    exact .head hmove (ih ht (hmove.walk h))
  | case7 before t q rest hq hkind ih =>
    have hmove : Move a b (before.reverse ++ t :: q :: rest) (before.reverse ++ q :: t :: rest) :=
      .swap ht hq (Ne.symm hkind)
    have h' := hmove.walk h
    rw [List.reverse_cons, List.append_assoc] at ih
    exact .head hmove (ih ht h')

/-- A run taken to its place: up as far as it goes, then down as far as it goes. -/
def settle (a b : Array α) (before : List Op) (t : Op) (after : List Op) : Focus :=
  moveDown a b (moveUp a b before t after).before (moveUp a b before t after).current
    (moveUp a b before t after).after

/-- **Taking a run to its place consists of steps.** -/
theorem settle_moves {before after : List Op} {t : Op} (ht : t.kind ≠ .keep)
    (h : Walk a b i j (before.reverse ++ t :: after) i' j') :
    Moves a b (before.reverse ++ t :: after) (settle a b before t after).toList := by
  have hup := moveUp_moves ht h
  exact hup.trans (moveDown_moves (by rwa [moveUp_kind]) (hup.walk h))

/-! ## Passes -/

/-- **A pass over one kind consists of steps**, wherever it is cut off. -/
theorem compactKind_moves {kind : Kind} (hkind : kind ≠ .keep) (left : Nat) (before after : List Op)
    (h : Walk a b i j (before.reverse ++ after) i' j') :
    Moves a b (before.reverse ++ after) (compactKind a b kind left before after) := by
  fun_induction compactKind a b kind left before after with
  | case1 before after => exact .refl
  | case2 left before => rw [List.append_nil]
  | case3 left before op after hop up down ih =>
    have hsettle : Moves a b (before.reverse ++ op :: after) down.toList :=
      settle_moves (hop ▸ hkind) h
    rw [List.reverse_cons, List.append_assoc] at ih
    exact hsettle.trans (ih (hsettle.walk h))
  | case4 left before op after hop ih =>
    rw [List.reverse_cons, List.append_assoc] at ih
    exact ih h

/-- **Compaction consists of steps.** -/
theorem compact_moves {ops : List Op} (h : Walk a b i j ops i' j') :
    Moves a b ops (compact a b ops) := by
  have hremoved : Moves a b ops (compactKind a b .remove (passBound .remove ops) [] ops) :=
    compactKind_moves (by decide) _ [] ops h
  exact hremoved.trans (compactKind_moves (by decide) _ [] _ (hremoved.walk h))

/-- **Compaction keeps a walk.** -/
theorem compact_walk {ops : List Op} (h : Walk a b i j ops i' j') :
    Walk a b i j (compact a b ops) i' j' :=
  (compact_moves h).walk h

end LintGate.Diff
