/-
The middle of a shortest edit path.

Two searches walk the edit grid of an old and a new range, one from the start and
one from the end, each keeping for every diagonal the furthest column reached
with a given number of edits. Where they meet lies a run of equal lines in the
middle of a shortest path; the answer is the point where that run starts, seen
from the search that completed the meeting.
-/

set_option autoImplicit false

namespace LintGate.Diff

variable {α : Type} [DecidableEq α]

/-! ## Common ends of two ranges -/

/-- The number of lines on which `[a₀, a₁)` and `[b₀, b₁)` agree from their starts. -/
def commonStart (a b : Array α) (a₀ a₁ b₀ b₁ : Nat) : Nat :=
  if a₀ < a₁ ∧ b₀ < b₁ ∧ a[a₀]? = b[b₀]? then commonStart a b (a₀ + 1) a₁ (b₀ + 1) b₁ + 1 else 0
termination_by a₁ - a₀

/-- The number of lines on which `[a₀, a₁)` and `[b₀, b₁)` agree from their ends. -/
def commonEnd (a b : Array α) (a₀ a₁ b₀ b₁ : Nat) : Nat :=
  if a₀ < a₁ ∧ b₀ < b₁ ∧ a[a₁ - 1]? = b[b₁ - 1]? then commonEnd a b a₀ (a₁ - 1) b₀ (b₁ - 1) + 1
  else 0
termination_by a₁ - a₀

/-! ## Frontiers -/

/-- The furthest column reached on each diagonal; diagonal `k` is stored at `k + offset`. -/
structure Frontier where
  offset : Int
  columns : Array Int

namespace Frontier

/-- The frontier before any edit, for diagonals of size up to `bound`. -/
def start (bound : Nat) : Frontier := ⟨bound, Array.replicate (2 * bound + 1) 0⟩

/-- The column reached on diagonal `k`. -/
def get (f : Frontier) (k : Int) : Int := f.columns[(k + f.offset).toNat]?.getD 0

/-- Records the column reached on diagonal `k`. -/
def set (f : Frontier) (k x : Int) : Frontier :=
  { f with columns := f.columns.setIfInBounds (k + f.offset).toNat x }

/-- The column from which a path with `d` edits enters diagonal `k`: one edit past a neighbouring
diagonal, the one that reached further. -/
def enter (f : Frontier) (d k : Int) : Int :=
  if k = -d ∨ (k ≠ d ∧ f.get (k - 1) < f.get (k + 1)) then f.get (k + 1) else f.get (k - 1) + 1

end Frontier

/-! ## The search -/

/-- An old range and a new range of two sequences. -/
structure Grid (α : Type) where
  a : Array α
  b : Array α
  a₀ : Nat
  a₁ : Nat
  b₀ : Nat
  b₁ : Nat

namespace Grid

/-- The number of old lines. -/
def width (g : Grid α) : Nat := g.a₁ - g.a₀

/-- The number of new lines. -/
def height (g : Grid α) : Nat := g.b₁ - g.b₀

/-- The diagonal of the end, seen from the start. -/
def delta (g : Grid α) : Int := (g.width : Int) - g.height

/-- One diagonal of the forward search with `d` edits: the frontier with the run of equal lines
followed, and the point where that run started. -/
def forward (g : Grid α) (f : Frontier) (d k : Int) : Frontier × Int × Int :=
  let x := f.enter d k
  let y := x - k
  let run : Nat :=
    if x < g.width ∧ y < g.height then
      commonStart g.a g.b (g.a₀ + x.toNat) g.a₁ (g.b₀ + y.toNat) g.b₁
    else 0
  (f.set k (x + run), x, y)

/-- One diagonal of the backward search with `d` edits: the frontier with the run of equal lines
followed, and the point where that run ends, counted from the far corner. -/
def backward (g : Grid α) (r : Frontier) (d k : Int) : Frontier × Int × Int :=
  let x := r.enter d k
  let y := x - k
  let run : Nat :=
    if x < g.width ∧ y < g.height then
      commonEnd g.a g.b g.a₀ (g.a₀ + g.width - x.toNat) g.b₀ (g.b₀ + g.height - y.toNat)
    else 0
  (r.set k (x + run), x + run, y + run)

/-- All diagonals `k, k - 2, …` of the forward search, `left` of them, stopping where it meets the
backward frontier. -/
def forwardRound (g : Grid α) (r : Frontier) (d : Int) :
    Nat → Int → Frontier → Frontier × Option (Nat × Nat)
  | 0, _, f => (f, none)
  | left + 1, k, f =>
    let (f, x, y) := g.forward f d k
    if g.delta % 2 ≠ 0 ∧ (k - g.delta).natAbs + 1 ≤ d ∧ f.get k + r.get (g.delta - k) ≥ g.width then
      (f, some (g.a₀ + x.toNat, g.b₀ + y.toNat))
    else g.forwardRound r d left (k - 2) f

/-- All diagonals `k, k - 2, …` of the backward search, `left` of them, stopping where it meets the
forward frontier. -/
def backwardRound (g : Grid α) (f : Frontier) (d : Int) :
    Nat → Int → Frontier → Frontier × Option (Nat × Nat)
  | 0, _, r => (r, none)
  | left + 1, k, r =>
    let (r, x, y) := g.backward r d k
    if g.delta % 2 = 0 ∧ (k - g.delta).natAbs ≤ d ∧ r.get k + f.get (g.delta - k) ≥ g.width then
      (r, some (g.a₀ + (g.width - x).toNat, g.b₀ + (g.height - y).toNat))
    else g.backwardRound f d left (k - 2) r

/-- Rounds with `d, d + 1, …` edits, `left` of them, until the searches meet. -/
def search (g : Grid α) : Nat → Nat → Frontier → Frontier → Option (Nat × Nat)
  | 0, _, _, _ => none
  | left + 1, d, f, r =>
    match g.forwardRound r d (d + 1) d f with
    | (_, some p) => some p
    | (f, none) =>
      match g.backwardRound f d (d + 1) d r with
      | (_, some p) => some p
      | (r, none) => g.search left (d + 1) f r

end Grid

/-- The middle of a shortest edit path between `[a₀, a₁)` and `[b₀, b₁)`. -/
def middle (a b : Array α) (a₀ a₁ b₀ b₁ : Nat) : Nat × Nat :=
  let g : Grid α := ⟨a, b, a₀, a₁, b₀, b₁⟩
  let rounds := (g.width + g.height + 1) / 2 + 1
  let start := Frontier.start (rounds + 1)
  (g.search rounds 0 start start).getD (a₀, b₀)

end LintGate.Diff
