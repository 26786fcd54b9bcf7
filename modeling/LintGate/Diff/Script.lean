/-
Edit scripts between two sequences of lines.

A script is a list of operations: keep a run of lines, remove a run from the old
side, insert a run of the new side. The script of two sequences is found by
divide and conquer. Common ends are kept; if one side is then empty the other is
removed or inserted whole; otherwise the middle of a shortest path through the
edit grid splits both sides in two.

A split that makes no progress cannot occur for a middle of a shortest path. It
is answered by removing and inserting the whole of both sides, which makes the
recursion total without a bound.
-/
import LintGate.Diff.Middle

set_option autoImplicit false

namespace LintGate.Diff

/-- What an operation does with its lines. -/
inductive Kind where
  | keep
  | remove
  | insert
deriving DecidableEq, Repr

/-- A run of lines: `oldLen` lines of the old side from `old` on against `newLen` lines of the new
side from `new` on. A kept run has both lengths equal, a removal no new lines, an insertion no old
ones. -/
structure Op where
  kind : Kind
  old : Nat
  oldLen : Nat
  new : Nat
  newLen : Nat
deriving DecidableEq, Repr

namespace Op

/-- Keeps `len` lines. -/
def keep (old new len : Nat) : Op := ⟨.keep, old, len, new, len⟩

/-- Removes `len` old lines. -/
def remove (old len new : Nat) : Op := ⟨.remove, old, len, new, 0⟩

/-- Inserts `len` new lines. -/
def insert (old new len : Nat) : Op := ⟨.insert, old, 0, new, len⟩

/-- The same run with `other` appended. -/
def extend (op other : Op) : Op :=
  { op with oldLen := op.oldLen + other.oldLen, newLen := op.newLen + other.newLen }

/-- What a count comes to over all operations of a list. -/
def total (count : Op → Nat) (ops : List Op) : Nat := ops.foldr (fun op n => count op + n) 0

end Op

variable {α : Type} [DecidableEq α]

/-- A kept run, left out when it is empty. -/
def keepRun (old new len : Nat) : List Op := if len = 0 then [] else [Op.keep old new len]

/-- The script between the old lines `[a₀, a₁)` and the new lines `[b₀, b₁)`. -/
def scriptBetween (a b : Array α) (a₀ a₁ b₀ b₁ : Nat) : List Op :=
  let p := commonStart a b a₀ a₁ b₀ b₁
  let a₀' := a₀ + p
  let b₀' := b₀ + p
  let s := commonEnd a b a₀' a₁ b₀' b₁
  let a₁' := a₁ - s
  let b₁' := b₁ - s
  let core : List Op :=
    if a₁' ≤ a₀' ∧ b₁' ≤ b₀' then []
    else if b₁' ≤ b₀' then [Op.remove a₀' (a₁' - a₀') b₀']
    else if a₁' ≤ a₀' then [Op.insert a₀' b₀' (b₁' - b₀')]
    else
      let (x, y) := middle a b a₀' a₁' b₀' b₁'
      if _h : (a₀' ≤ x ∧ x ≤ a₁' ∧ b₀' ≤ y ∧ y ≤ b₁') ∧
          (x - a₀') + (y - b₀') < (a₁ - a₀) + (b₁ - b₀) ∧
          (a₁' - x) + (b₁' - y) < (a₁ - a₀) + (b₁ - b₀) then
        scriptBetween a b a₀' x b₀' y ++ scriptBetween a b x a₁' y b₁'
      else [Op.remove a₀' (a₁' - a₀') b₀', Op.insert a₀' b₀' (b₁' - b₀')]
  keepRun a₀ b₀ p ++ core ++ keepRun a₁' b₁' s
termination_by (a₁ - a₀) + (b₁ - b₀)
decreasing_by
  · exact _h.2.1
  · exact _h.2.2

/-- The script between two whole sequences. -/
def script (a b : Array α) : List Op := scriptBetween a b 0 a.size 0 b.size

end LintGate.Diff
