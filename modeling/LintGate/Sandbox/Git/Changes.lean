/-
Changes between two snapshots.

A path is added, deleted or modified. Then added files are traced back: to a deleted
file that is similar, which makes a rename, or to a file that is changed as well, which
makes a copy. Each target takes the source most like it, and a source serves one rename.
-/
import LintGate.Repository
import LintGate.Sandbox.Git.Similarity
import LintGate.Sandbox.Git.Snapshot

set_option autoImplicit false

namespace LintGate.Sandbox

/-- The change of one path. -/
structure Delta where
  path : String
  old : Option Blob
  new : Option Blob
deriving DecidableEq, Repr

namespace Delta

/-- The changes between two snapshots, in the order of their paths. -/
def between (old new : Snapshot) : List Delta :=
  (Snapshot.allPaths [old, new]).filterMap fun p =>
    if old.get? p = new.get? p then none else some ⟨p, old.get? p, new.get? p⟩

/-- Whether a path may be what another comes from. Empty files are like too many others. -/
def isSource (d : Delta) : Bool := d.old.any fun b => !b.content.isEmpty

/-- Whether a path may come from another. -/
def isTarget (d : Delta) : Bool := d.old.isNone && d.new.any fun b => !b.content.isEmpty

/-- How similar a target is to a source. -/
def similarity? (source target : Delta) : Option Nat :=
  match source.old, target.new with
  | some a, some b => Similarity.measure? a.content b.content
  | _, _ => none

end Delta

/-- Where a target may come from, and how similar it is. -/
structure Origin where
  source : Nat
  score : Nat
deriving DecidableEq, Repr

/-- What is known of where targets come from. -/
structure Tracing where
  /-- The source of each target, if it has one of its own. -/
  taken : List (Nat × Origin) := []
  /-- The source that is most like a target. -/
  best : List (Nat × Origin) := []
  /-- Whether a target has lost its source. -/
  bumped : Bool := false

namespace Tracing

/-- Takes up a pair. A better pair takes the source and the target of others. -/
def meet (t : Tracing) (target source score : Nat) : Tracing :=
  let ofTarget := t.taken.lookup target
  let ofSource := t.taken.find? fun e => e.2.source == source
  let isBetter := (ofTarget.map (·.score)).getD 0 < score && (ofSource.map (·.2.score)).getD 0 < score
  let isBest := ((t.best.lookup target).map (·.score)).getD 0 < score
  let best := if isBest then (target, ⟨source, score⟩) :: t.best.filter (fun e => e.1 != target) else t.best
  if isBetter then
    let others := t.taken.filter fun e => e.1 != target && e.2.source != source
    { taken := (target, ⟨source, score⟩) :: others, best,
      bumped := t.bumped || ofTarget.isSome || ofSource.isSome }
  else { t with best }

/-- Takes up the pairs of a list. -/
def meetAll (pairs : List (Nat × Nat × Nat)) (t : Tracing) : Tracing :=
  pairs.foldl (fun t p => t.meet p.1 p.2.1 p.2.2) t

/-- Takes up pairs until no target has lost its source. -/
def settle (pairs : List (Nat × Nat × Nat)) : Nat → Tracing → Tracing
  | 0, t => t
  | n + 1, t =>
    let t := meetAll pairs { t with bumped := false }
    if t.bumped then settle pairs n t else t

end Tracing

/-- The pairs of a target and a source, with their similarity. -/
def pairsOf (ds : List (Delta × Nat)) : List (Nat × Nat × Nat) :=
  (ds.filter (·.1.isTarget)).flatMap fun (target, t) =>
    (ds.filter (·.1.isSource)).filterMap fun (source, s) =>
      if s = t then none else (Delta.similarity? source target).map fun score => (t, s, score)

/-- The similarity from which on a file comes from another. -/
def threshold : Nat := 50

/-- What became of an added file. -/
def traced (ds : List Delta) (t : Tracing) (d : Delta) (n : Nat) : Option StagedChange :=
  let added : StagedChange := ⟨.added, d.path, d.path⟩
  let source (o : Origin) : Option Delta := ds[o.source]?
  match t.taken.lookup n, t.best.lookup n with
  | some own, best =>
    match source own with
    | none => some added
    | some s =>
      if s.new.isNone then
        some (if threshold ≤ own.score then ⟨.renamed, s.path, d.path⟩ else added)
      else some (copied best)
  | none, best =>
    match best.bind source with
    | some s =>
      if s.new.isNone then
        some (if (best.map (·.score)).any (threshold ≤ ·) then ⟨.renamed, s.path, d.path⟩ else added)
      else some (copied best)
    | none => some added
where
  /-- A copy of the file most like it, if that is like enough. -/
  copied (best : Option Origin) : StagedChange :=
    match best with
    | some o =>
      if threshold ≤ o.score then
        match ds[o.source]? with
        | some s => ⟨.copied, s.path, d.path⟩
        | none => ⟨.added, d.path, d.path⟩
      else ⟨.added, d.path, d.path⟩
    | none => ⟨.added, d.path, d.path⟩

/-- The changes between two snapshots, with renames and copies. Deleted files are not told. -/
def stagedChanges (old new : Snapshot) : List StagedChange :=
  let ds := Delta.between old new
  let pairs := pairsOf ds.zipIdx
  let t := Tracing.settle pairs (pairs.length + 1) {}
  ds.zipIdx.filterMap fun (d, n) =>
    match d.old, d.new with
    | _, none => none
    | some _, some _ => some ⟨.modified, d.path, d.path⟩
    | none, some _ => traced ds t d n

end LintGate.Sandbox
