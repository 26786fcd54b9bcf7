/-
Hunks of an edit script.

Neighbouring operations are gathered: a maximal run of kept lines becomes one
stretch of equal lines, a maximal run of removals and insertions one change. A
change takes the position of its first removal and of its first insertion, and
the lengths of all of them.

A hunk is a change with the two ranges its header names. Those ranges run from
the end of the preceding equal stretch to the start of the following one; where
there is no such stretch the change's own bounds stand in.
-/
import LintGate.Diff.Compaction

set_option autoImplicit false

namespace LintGate.Diff

/-! ## Stretches -/

/-- A removed run and an inserted run that stand together. -/
structure Change where
  old : Nat
  oldLen : Nat
  new : Nat
  newLen : Nat
deriving DecidableEq, Repr

/-- A part of a script: equal lines or a change. -/
inductive Stretch where
  | equal (old new len : Nat)
  | change (c : Change)
deriving DecidableEq, Repr

namespace Stretch

/-- The positions at which a stretch begins. -/
def start : Stretch → Nat × Nat
  | equal old new _ => (old, new)
  | change c => (c.old, c.new)

/-- The positions just past a stretch. -/
def stop : Stretch → Nat × Nat
  | equal old new len => (old + len, new + len)
  | change c => (c.old + c.oldLen, c.new + c.newLen)

end Stretch

/-- The total of the kept lines at the front of a script. -/
def keptLen : List Op → Nat
  | [] => 0
  | op :: rest => if op.kind = .keep then op.oldLen + keptLen rest else 0

/-- The change made of a run of removals and insertions. -/
def Change.ofRun (run : List Op) : Change :=
  let removals := run.filter (·.kind = .remove)
  let insertions := run.filter (·.kind = .insert)
  let oldLen := Op.total (·.oldLen) removals
  let newLen := Op.total (·.newLen) insertions
  match removals.head?, insertions.head? with
  | some r, some i => ⟨r.old, oldLen, i.new, newLen⟩
  | some r, none => ⟨r.old, oldLen, r.new, 0⟩
  | none, some i => ⟨i.old, 0, i.new, newLen⟩
  | none, none => ⟨0, 0, 0, 0⟩

/-- The stretches of a script, in order. -/
def stretches : List Op → List Stretch
  | [] => []
  | op :: rest =>
    if op.kind = .keep then
      .equal op.old op.new (keptLen (op :: rest)) :: stretches (rest.dropWhile (·.kind = .keep))
    else
      .change (Change.ofRun (op :: rest.takeWhile (·.kind ≠ .keep)))
        :: stretches (rest.dropWhile (·.kind ≠ .keep))
termination_by ops => ops.length
decreasing_by
  all_goals
    simp only [List.length_cons]
    exact Nat.lt_succ_of_le (List.dropWhile_sublist _).length_le

/-! ## Hunks -/

/-- A change with the old range `[oldFrom, oldTo)` and the new range `[newFrom, newTo)` that its
header names. -/
structure Hunk where
  change : Change
  oldFrom : Nat
  oldTo : Nat
  newFrom : Nat
  newTo : Nat
deriving DecidableEq, Repr

/-- The hunks of the stretches that follow `previous`. -/
def hunksAfter (previous : Option Stretch) : List Stretch → List Hunk
  | [] => []
  | .equal old new len :: rest => hunksAfter (some (.equal old new len)) rest
  | .change c :: rest =>
    let (oldFrom, newFrom) := ((previous.map Stretch.stop).getD (Stretch.change c).start)
    let (oldTo, newTo) := ((rest.head?.map Stretch.start).getD (Stretch.change c).stop)
    ⟨c, oldFrom, oldTo, newFrom, newTo⟩ :: hunksAfter (some (.change c)) rest

/-- The hunks of a script. -/
def hunks (ops : List Op) : List Hunk := hunksAfter none (stretches ops)

end LintGate.Diff
