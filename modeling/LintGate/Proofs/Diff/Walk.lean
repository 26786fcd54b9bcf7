/-
Edit scripts as walks.

A script is read as a walk through two sequences at once. A walk has a place in the old
sequence and one in the new; a kept run moves on in both and passes equal lines, a
removal moves on in the old one only and an insertion in the new one only. `Walk` says
that a list of operations leads from one pair of places to another.

Each operation has to stand where the walk is, but only in the sequence it takes lines
from. The other coordinate may be stale: two runs that change places keep the positions
they were found at. Before that they are right, which `Straight` adds to a walk.

`script_straight` is the result: the script of two sequences walks straight from their
starts to their ends. Nothing about the search for the middle of a path is used, because a
middle that does not split the grid is answered by removing and inserting everything.
-/
import LintGate.Diff.Script

set_option autoImplicit false

namespace LintGate.Diff

variable {α : Type} {a b : Array α}

/-! ## Lines that agree -/

/-- The `len` old lines from `i` on are the `len` new lines from `j` on. -/
def Agree (a b : Array α) (i j len : Nat) : Prop := ∀ k < len, a[i + k]? = b[j + k]?

@[simp] theorem agree_zero (a b : Array α) (i j : Nat) : Agree a b i j 0 := by
  intro k hk
  omega

/-- A run agrees when its first and its second part do. -/
theorem agree_add {i j m n : Nat} :
    Agree a b i j (m + n) ↔ Agree a b i j m ∧ Agree a b (i + m) (j + m) n := by
  constructor
  · intro h
    refine ⟨fun k hk => h k (by omega), fun k hk => ?_⟩
    rw [Nat.add_assoc, Nat.add_assoc]
    exact h (m + k) (by omega)
  · rintro ⟨hfirst, hsecond⟩ k hk
    by_cases hkm : k < m
    · exact hfirst k hkm
    · have h := hsecond (k - m) (by omega)
      rwa [Nat.add_assoc, Nat.add_assoc, Nat.add_sub_cancel' (by omega)] at h

/-! ## Walks -/

/-- Whether an operation can be taken at the places `i` and `j`. -/
def Op.Fits (a b : Array α) (i j : Nat) (op : Op) : Prop :=
  match op.kind with
  | .keep => op.old = i ∧ op.new = j ∧ op.newLen = op.oldLen ∧ Agree a b i j op.oldLen
  | .remove => op.old = i ∧ op.newLen = 0
  | .insert => op.new = j ∧ op.oldLen = 0

/-- The operations lead from the places `i` and `j` to the places `i'` and `j'`. -/
def Walk (a b : Array α) : Nat → Nat → List Op → Nat → Nat → Prop
  | i, j, [], i', j' => i = i' ∧ j = j'
  | i, j, op :: ops, i', j' =>
    op.Fits a b i j ∧ Walk a b (i + op.oldLen) (j + op.newLen) ops i' j'

variable {i j i' j' : Nat}

@[simp] theorem walk_nil : Walk a b i j [] i' j' ↔ i = i' ∧ j = j' := Iff.rfl

@[simp] theorem walk_cons {op : Op} {ops : List Op} :
    Walk a b i j (op :: ops) i' j' ↔
      op.Fits a b i j ∧ Walk a b (i + op.oldLen) (j + op.newLen) ops i' j' := Iff.rfl

/-- A walk goes through every place between two of its parts. -/
theorem walk_append {ops ops' : List Op} :
    Walk a b i j (ops ++ ops') i' j' ↔
      ∃ u v, Walk a b i j ops u v ∧ Walk a b u v ops' i' j' := by
  induction ops generalizing i j with
  | nil =>
    constructor
    · exact fun h => ⟨i, j, ⟨rfl, rfl⟩, h⟩
    · rintro ⟨u, v, ⟨rfl, rfl⟩, h⟩
      exact h
  | cons op ops ih =>
    rw [List.cons_append, walk_cons, ih]
    constructor
    · rintro ⟨hop, u, v, hops, hops'⟩
      exact ⟨u, v, ⟨hop, hops⟩, hops'⟩
    · rintro ⟨u, v, ⟨hop, hops⟩, hops'⟩
      exact ⟨hop, u, v, hops, hops'⟩

/-- Each operation of a walk fits somewhere. -/
theorem Walk.fits_of_mem {ops : List Op} (h : Walk a b i j ops i' j') {op : Op} (hop : op ∈ ops) :
    ∃ x y, op.Fits a b x y := by
  obtain ⟨front, back, rfl⟩ := List.append_of_mem hop
  obtain ⟨x, y, -, hfits, -⟩ := walk_append.mp h
  exact ⟨x, y, hfits⟩

/-- A walk never goes back. -/
theorem Walk.le {ops : List Op} (h : Walk a b i j ops i' j') : i ≤ i' ∧ j ≤ j' := by
  induction ops generalizing i j with
  | nil => exact ⟨Nat.le_of_eq h.1, Nat.le_of_eq h.2⟩
  | cons op ops ih =>
    have hrest := ih h.2
    omega

/-- Keeping a run of lines that agree. -/
theorem fits_keep {n : Nat} (h : Agree a b i j n) : (Op.keep i j n).Fits a b i j := ⟨rfl, rfl, rfl, h⟩

/-! ## Walks with right places -/

/-- A walk none of whose runs is empty, and all of whose runs stand where the walk is on the new side
and not beyond it on the old one. -/
def Straight (a b : Array α) : Nat → Nat → List Op → Nat → Nat → Prop
  | i, j, [], i', j' => i = i' ∧ j = j'
  | i, j, op :: ops, i', j' =>
    op.Fits a b i j ∧ (op.old ≤ i ∧ op.new = j ∧ 0 < op.oldLen + op.newLen) ∧
      Straight a b (i + op.oldLen) (j + op.newLen) ops i' j'

theorem Straight.walk {ops : List Op} (h : Straight a b i j ops i' j') : Walk a b i j ops i' j' := by
  induction ops generalizing i j with
  | nil => exact h
  | cons op ops ih => exact ⟨h.1, ih h.2.2⟩

theorem Straight.append {front back : List Op} {u v : Nat} (hfront : Straight a b i j front u v)
    (hback : Straight a b u v back i' j') : Straight a b i j (front ++ back) i' j' := by
  induction front generalizing i j with
  | nil =>
    obtain ⟨rfl, rfl⟩ := hfront
    exact hback
  | cons op front ih => exact ⟨hfront.1, hfront.2.1, ih hfront.2.2⟩

theorem straight_keepRun {n : Nat} (h : Agree a b i j n) :
    Straight a b i j (keepRun i j n) (i + n) (j + n) := by
  unfold keepRun
  split
  · exact ⟨by omega, by omega⟩
  · exact ⟨fits_keep h, ⟨Nat.le_refl i, rfl, by simp only [Op.keep]; omega⟩, rfl, rfl⟩

theorem straight_remove (h : i < i') : Straight a b i j [Op.remove i (i' - i) j] i' j :=
  ⟨⟨rfl, rfl⟩, ⟨Nat.le_refl i, rfl, Nat.sub_pos_of_lt h⟩, by simp only [Op.remove]; omega, rfl⟩

theorem straight_insert {x : Nat} (hx : x ≤ i) (h : j < j') :
    Straight a b i j [Op.insert x j (j' - j)] i j' := by
  refine ⟨⟨rfl, rfl⟩, ⟨hx, rfl, ?_⟩, rfl, ?_⟩
  · simp only [Op.insert]
    omega
  · simp only [Op.insert]
    omega

/-! ## The common ends of two ranges -/

variable [DecidableEq α]

theorem commonStart_le (a b : Array α) (a₀ a₁ b₀ b₁ : Nat) :
    commonStart a b a₀ a₁ b₀ b₁ ≤ a₁ - a₀ ∧ commonStart a b a₀ a₁ b₀ b₁ ≤ b₁ - b₀ := by
  fun_induction commonStart a b a₀ a₁ b₀ b₁ with
  | case1 a₀ b₀ h ih => omega
  | case2 => omega

theorem agree_commonStart (a b : Array α) (a₀ a₁ b₀ b₁ : Nat) :
    Agree a b a₀ b₀ (commonStart a b a₀ a₁ b₀ b₁) := by
  fun_induction commonStart a b a₀ a₁ b₀ b₁ with
  | case1 a₀ b₀ h ih =>
    rw [Nat.add_comm, agree_add]
    refine ⟨fun k hk => ?_, ih⟩
    obtain rfl : k = 0 := by omega
    exact h.2.2
  | case2 => exact agree_zero a b _ _

theorem commonEnd_le (a b : Array α) (a₀ a₁ b₀ b₁ : Nat) :
    commonEnd a b a₀ a₁ b₀ b₁ ≤ a₁ - a₀ ∧ commonEnd a b a₀ a₁ b₀ b₁ ≤ b₁ - b₀ := by
  fun_induction commonEnd a b a₀ a₁ b₀ b₁ with
  | case1 a₁ b₁ h ih => omega
  | case2 => omega

theorem agree_commonEnd (a b : Array α) (a₀ a₁ b₀ b₁ : Nat) :
    Agree a b (a₁ - commonEnd a b a₀ a₁ b₀ b₁) (b₁ - commonEnd a b a₀ a₁ b₀ b₁)
      (commonEnd a b a₀ a₁ b₀ b₁) := by
  fun_induction commonEnd a b a₀ a₁ b₀ b₁ with
  | case1 a₁ b₁ h ih =>
    have hle := commonEnd_le a b a₀ (a₁ - 1) b₀ (b₁ - 1)
    generalize commonEnd a b a₀ (a₁ - 1) b₀ (b₁ - 1) = n at ih hle ⊢
    have ha : a₁ - (n + 1) = a₁ - 1 - n := by omega
    have hb : b₁ - (n + 1) = b₁ - 1 - n := by omega
    rw [ha, hb, agree_add]
    refine ⟨ih, fun k hk => ?_⟩
    obtain rfl : k = 0 := by omega
    rw [Nat.add_zero, Nat.add_zero, Nat.sub_add_cancel (by omega), Nat.sub_add_cancel (by omega)]
    exact h.2.2
  | case2 => exact agree_zero a b _ _

/-- Behind the common start of two ranges their lines differ. -/
theorem commonStart_stops (a b : Array α) (a₀ a₁ b₀ b₁ : Nat)
    (ha : a₀ + commonStart a b a₀ a₁ b₀ b₁ < a₁) (hb : b₀ + commonStart a b a₀ a₁ b₀ b₁ < b₁) :
    a[a₀ + commonStart a b a₀ a₁ b₀ b₁]? ≠ b[b₀ + commonStart a b a₀ a₁ b₀ b₁]? := by
  fun_induction commonStart a b a₀ a₁ b₀ b₁ with
  | case1 a₀ b₀ h ih =>
    generalize commonStart a b (a₀ + 1) a₁ (b₀ + 1) b₁ = n at *
    have ha₀ : a₀ + (n + 1) = a₀ + 1 + n := by omega
    have hb₀ : b₀ + (n + 1) = b₀ + 1 + n := by omega
    rw [ha₀, hb₀]
    exact ih (by omega) (by omega)
  | case2 a₀ b₀ h =>
    intro hsame
    exact h ⟨ha, hb, hsame⟩

/-- So do they in front of the common end. -/
theorem commonEnd_stops (a b : Array α) (a₀ a₁ b₀ b₁ : Nat)
    (ha : a₀ < a₁ - commonEnd a b a₀ a₁ b₀ b₁) (hb : b₀ < b₁ - commonEnd a b a₀ a₁ b₀ b₁) :
    a[a₁ - commonEnd a b a₀ a₁ b₀ b₁ - 1]? ≠ b[b₁ - commonEnd a b a₀ a₁ b₀ b₁ - 1]? := by
  fun_induction commonEnd a b a₀ a₁ b₀ b₁ with
  | case1 a₁ b₁ h ih =>
    generalize commonEnd a b a₀ (a₁ - 1) b₀ (b₁ - 1) = n at *
    have ha₁ : a₁ - (n + 1) = a₁ - 1 - n := by omega
    have hb₁ : b₁ - (n + 1) = b₁ - 1 - n := by omega
    rw [ha₁, hb₁]
    exact ih (by omega) (by omega)
  | case2 a₁ b₁ h =>
    intro hsame
    exact h ⟨ha, hb, hsame⟩

/-- Lines that agree are part of the common start. -/
theorem le_commonStart {a₀ a₁ b₀ b₁ n : Nat} (h : Agree a b a₀ b₀ n) (ha : a₀ + n ≤ a₁)
    (hb : b₀ + n ≤ b₁) : n ≤ commonStart a b a₀ a₁ b₀ b₁ := by
  refine Nat.le_of_not_lt fun hlt => ?_
  exact commonStart_stops a b a₀ a₁ b₀ b₁ (by omega) (by omega) (h _ hlt)

/-! ## The script of two ranges -/

/-- **A script walks through its ranges**, straight from the starts of both to the ends of both. -/
theorem scriptBetween_straight (a b : Array α) (a₀ a₁ b₀ b₁ : Nat) (ha : a₀ ≤ a₁) (hb : b₀ ≤ b₁) :
    Straight a b a₀ b₀ (scriptBetween a b a₀ a₁ b₀ b₁) a₁ b₁ := by
  fun_induction scriptBetween a b a₀ a₁ b₀ b₁ with
  | case1 a₀ a₁ b₀ b₁ p a₀' b₀' s a₁' b₁' core ihfirst ihsecond =>
    have hp : p ≤ a₁ - a₀ ∧ p ≤ b₁ - b₀ := commonStart_le a b a₀ a₁ b₀ b₁
    have hs : s ≤ a₁ - a₀' ∧ s ≤ b₁ - b₀' := commonEnd_le a b a₀' a₁ b₀' b₁
    have ha₀ : a₀' = a₀ + p := rfl
    have hb₀ : b₀' = b₀ + p := rfl
    have ha₁ : a₁' + s = a₁ := Nat.sub_add_cancel (by omega)
    have hb₁ : b₁' + s = b₁ := Nat.sub_add_cancel (by omega)
    -- the three parts: the common start, the rest in the middle, the common end
    have hfront : Straight a b a₀ b₀ (keepRun a₀ b₀ p) a₀' b₀' :=
      straight_keepRun (agree_commonStart a b a₀ a₁ b₀ b₁)
    have hback : Straight a b a₁' b₁' (keepRun a₁' b₁' s) a₁ b₁ := by
      have h := straight_keepRun (agree_commonEnd a b a₀' a₁ b₀' b₁)
      rwa [ha₁, hb₁] at h
    have hcore : Straight a b a₀' b₀' core a₁' b₁' := by
      simp only [core]
      split
      · -- nothing is left on either side
        exact ⟨by omega, by omega⟩
      split
      · -- nothing is left of the new side
        have hnew : b₁' = b₀' := by omega
        rw [hnew]
        exact straight_remove (by omega)
      split
      · -- nothing is left of the old one
        have hold : a₁' = a₀' := by omega
        rw [hold]
        exact straight_insert (Nat.le_refl _) (by omega)
      split
      next h =>
        exact (ihfirst _ _ h (by omega) (by omega)).append (ihsecond _ _ h (by omega) (by omega))
      next =>
        -- there is no middle that splits the rest
        exact (straight_remove (by omega)).append (straight_insert (by omega) (by omega))
    exact (hfront.append hcore).append hback

/-- The script of two sequences walks straight from their starts to their ends. -/
theorem script_straight (a b : Array α) : Straight a b 0 0 (script a b) a.size b.size :=
  scriptBetween_straight a b 0 a.size 0 b.size (Nat.zero_le _) (Nat.zero_le _)

theorem script_walk (a b : Array α) : Walk a b 0 0 (script a b) a.size b.size :=
  (script_straight a b).walk

end LintGate.Diff
