/-
Compaction of an edit script.

A removal or an insertion next to equal lines can often be moved along them
without changing what the script does, and two runs of one kind that meet can be
joined. Each run is first moved up as far as it goes, joining what it meets, and
then down as far as it goes, so that it ends at the last of its possible places.
Removals are treated first, then insertions.

When a run passes a run of the other kind, the two change places and keep the
positions they were found at; hunks are built from the first run of each kind,
whose positions are right.
-/
import LintGate.Diff.Script

set_option autoImplicit false

namespace LintGate.Diff

variable {α : Type} [DecidableEq α]

/-! ## A script with one operation in focus -/

/-- A script seen from one of its operations: those before it, nearest first, and those after. -/
structure Focus where
  before : List Op
  current : Op
  after : List Op

namespace Focus

/-- The whole script. -/
def toList (z : Focus) : List Op := z.before.reverse ++ z.current :: z.after

end Focus

/-- What is left to pass over: one step for each operation and one for each line of it. -/
def passable (ops : List Op) : Nat := Op.total (fun op => op.oldLen + 1) ops

/-- Lengthens the kept run that follows by `s` lines taken from its front, or starts one. -/
def keepAfter (s : Nat) (p t : Op) : List Op → List Op
  | q :: rest =>
    if q.kind = .keep then
      { q with old := q.old - s, oldLen := q.oldLen + s, new := q.new - s, newLen := q.newLen + s }
        :: rest
    else Op.keep (p.old + p.oldLen - s) (t.new + t.newLen - s) s :: q :: rest
  | [] => [Op.keep (p.old + p.oldLen - s) (t.new + t.newLen - s) s]

/-- Lengthens the kept run that precedes by `s` lines, or starts one. -/
def keepBefore (s : Nat) (t q : Op) : List Op → List Op
  | p :: rest =>
    if p.kind = .keep then
      { p with oldLen := p.oldLen + s, newLen := p.newLen + s } :: rest
    else Op.keep q.old t.new s :: p :: rest
  | [] => [Op.keep q.old t.new s]

/-! ## Moving up and down -/

/-- Moves the current run up as far as it goes. -/
def moveUp (a b : Array α) (before : List Op) (t : Op) (after : List Op) : Focus :=
  match before with
  | [] => ⟨[], t, after⟩
  | p :: rest =>
    if p.kind = .keep then
      let s := commonEnd a b p.old (p.old + p.oldLen) t.new (t.new + t.newLen)
      if s = 0 then
        if p.oldLen = 0 then moveUp a b rest t after else ⟨p :: rest, t, after⟩
      else
        let t' := { t with old := t.old - s, new := t.new - s }
        let after' := keepAfter s p t after
        if p.oldLen ≤ s then moveUp a b rest t' after'
        else
          moveUp a b ({ p with oldLen := p.oldLen - s, newLen := p.newLen - s } :: rest) t' after'
    else if p.kind = t.kind then moveUp a b rest (p.extend t) after
    else moveUp a b rest t (p :: after)
termination_by passable before
decreasing_by all_goals simp only [passable, Op.total, List.foldr_cons]; omega

/-- Moves the current run down as far as it goes. -/
def moveDown (a b : Array α) (before : List Op) (t : Op) (after : List Op) : Focus :=
  match after with
  | [] => ⟨before, t, []⟩
  | q :: rest =>
    if q.kind = .keep then
      let s := commonStart a b q.old (q.old + q.oldLen) t.new (t.new + t.newLen)
      if s = 0 then
        if q.oldLen = 0 then moveDown a b before t rest else ⟨before, t, q :: rest⟩
      else
        let t' := { t with old := t.old + s, new := t.new + s }
        let before' := keepBefore s t q before
        if q.oldLen ≤ s then moveDown a b before' t' rest
        else
          let q' := { q with
            old := q.old + s, oldLen := q.oldLen - s, new := q.new + s, newLen := q.newLen - s }
          moveDown a b before' t' (q' :: rest)
    else if q.kind = t.kind then moveDown a b before (t.extend q) rest
    else moveDown a b (q :: before) t rest
termination_by passable after
decreasing_by all_goals simp only [passable, Op.total, List.foldr_cons]; omega

/-! ## Passes -/

/-- One pass over the operations of a kind, at most `left` steps long. -/
def compactKind (a b : Array α) (kind : Kind) : Nat → List Op → List Op → List Op
  | 0, before, after => before.reverse ++ after
  | _, before, [] => before.reverse
  | left + 1, before, op :: after =>
    if op.kind = kind then
      let up := moveUp a b before op after
      let down := moveDown a b up.before up.current up.after
      compactKind a b kind left (down.current :: down.before) down.after
    else compactKind a b kind left (op :: before) after

/-- The stops of a script: one for each kept line, and one for each run that keeps none. -/
def stops (ops : List Op) : Nat :=
  Op.total (fun op => if op.kind = .keep then max 1 op.oldLen else 1) ops

/-- The number of runs of a kind. -/
def runsOf (kind : Kind) (ops : List Op) : Nat := ops.countP (·.kind = kind)

/-- The steps allowed to a pass, which never cut it short: one for each stop, and as many again for
each run of the kind. A step leaves fewer stops to the pass, or it joins two runs, which may leave more
of them but makes one run less. -/
def passBound (kind : Kind) (ops : List Op) : Nat := (runsOf kind ops + 1) * stops ops

/-- The script with its removals and then its insertions moved to their places. -/
def compact (a b : Array α) (ops : List Op) : List Op :=
  let removed := compactKind a b .remove (passBound .remove ops) [] ops
  compactKind a b .insert (passBound .insert removed) [] removed

end LintGate.Diff
