/-
Merging changes.

A merge brings together what two sides made of a common base. A file that only one
side changed is that side's; where both changed a file, the changes of its lines are
merged, and changes that touch each other are in conflict unless they are the same.
-/
import LintGate.Diff.Hunk
import LintGate.Sandbox.Git.Similarity
import LintGate.Sandbox.Git.Snapshot

set_option autoImplicit false

namespace LintGate.Sandbox.Merge

/-! ## Lines -/

/-- Cuts bytes behind each line feed. -/
def cut : Bytes → List Bytes
  | [] => []
  | b :: rest =>
    if b = 10 then [b] :: cut rest
    else
      match cut rest with
      | [] => [[b]]
      | line :: lines => (b :: line) :: lines

/-- Lines of a base that a side replaced. -/
structure Edit where
  start : Nat
  stop : Nat
  lines : List Bytes
deriving DecidableEq, Repr

/-- What a side did to a base. -/
def editsOf (base side : List Bytes) : List Edit :=
  (Diff.stretches (Diff.script base.toArray side.toArray)).filterMap fun
    | .equal .. => none
    | .change c => some ⟨c.old, c.old + c.oldLen, (side.drop c.new).take c.newLen⟩

/-- A part of a base with edits in it, as a side has it. -/
def rendered (base : List Bytes) (start stop : Nat) : List Edit → List Bytes
  | [] => (base.drop start).take (stop - start)
  | e :: rest => (base.drop start).take (e.start - start) ++ e.lines ++ rendered base e.stop stop rest

/-- The common lines at the front. -/
def commonFront (xs ys : List Bytes) : List Bytes := ((xs.zip ys).takeWhile fun p => p.1 == p.2).map (·.1)

/-- A side of a conflict, with a line feed at its end. -/
def closed (ls : List Bytes) : Bytes :=
  let b := ls.flatten
  match b.getLast? with
  | some x => if x = 10 then b else b ++ [10]
  | none => b

/-- The names of the two sides. -/
structure Names where
  ours : String
  theirs : String

/-- A conflict, with what both sides share around it. -/
def conflict (names : Names) (ours theirs : List Bytes) : Bytes :=
  let front := commonFront ours theirs
  let ours := ours.drop front.length
  let theirs := theirs.drop front.length
  let back := (commonFront ours.reverse theirs.reverse).reverse
  let ours := ours.take (ours.length - back.length)
  let theirs := theirs.take (theirs.length - back.length)
  front.flatten ++ Bytes.ofText ("<<<<<<< " ++ names.ours ++ "\n") ++ closed ours ++ Bytes.ofText "=======\n"
    ++ closed theirs ++ Bytes.ofText (">>>>>>> " ++ names.theirs ++ "\n") ++ back.flatten

/-- What is merged so far, and whether it is without conflict. -/
structure Merged where
  content : Bytes := []
  clean : Bool := true

/-- The edits of both sides that touch a part of the base, the part that they cover together, and the
edits behind it. The number bounds the edits. -/
def gather : Nat → Nat → List Edit → List Edit → List Edit → List Edit →
    Nat × (List Edit × List Edit) × (List Edit × List Edit)
  | 0, stop, a, b, as, bs => (stop, (a, b), (as, bs))
  | n + 1, stop, a, b, as, bs =>
    match as, bs with
    | e :: as', _ =>
      if e.start ≤ stop then gather n (max stop e.stop) (a ++ [e]) b as' bs else theirs n stop a b as bs
    | [], _ => theirs n stop a b as bs
where
  /-- Takes up an edit of the other side. -/
  theirs (n stop : Nat) (a b as bs : List Edit) : Nat × (List Edit × List Edit) × (List Edit × List Edit) :=
    match bs with
    | e :: bs' =>
      if e.start ≤ stop then gather n (max stop e.stop) a (b ++ [e]) as bs' else (stop, (a, b), (as, bs))
    | [] => (stop, (a, b), (as, bs))

/-- Merges edits of a base from a position on. The number bounds the edits. -/
def mergeEdits (names : Names) (base : List Bytes) : Nat → Nat → List Edit → List Edit → Merged → Merged
  | 0, at_, _, _, m => { m with content := m.content ++ (base.drop at_).flatten }
  | n + 1, at_, as, bs, m =>
    let next :=
      match as, bs with
      | [], [] => none
      | a :: _, [] => some a
      | [], b :: _ => some b
      | a :: _, b :: _ => some (if b.start < a.start then b else a)
    match next with
    | none => { m with content := m.content ++ (base.drop at_).flatten }
    | some first =>
      let (stop, (a, b), (as, bs)) := gather (as.length + bs.length) first.start [] [] as bs
      let kept := ((base.drop at_).take (first.start - at_)).flatten
      let ours := rendered base first.start stop a
      let theirs := rendered base first.start stop b
      let m :=
        if a.isEmpty || ours == theirs then { m with content := m.content ++ kept ++ theirs.flatten }
        else if b.isEmpty then { m with content := m.content ++ kept ++ ours.flatten }
        else { content := m.content ++ kept ++ conflict names ours theirs, clean := false }
      mergeEdits names base n stop as bs m

/-- Merges what two sides made of a base. Files that are no text are not merged. -/
def content (names : Names) (base ours theirs : Bytes) : Merged :=
  if [base, ours, theirs].any fun b => b.contains 0 then ⟨ours, false⟩
  else
    let base := cut base
    let as := editsOf base (cut ours)
    let bs := editsOf base (cut theirs)
    mergeEdits names base (as.length + bs.length) 0 as bs {}

/-! ## Files -/

/-- What becomes of a file. -/
inductive Fate where
  /-- It is as one side has it. -/
  | settled (blob : Option Blob)
  /-- It is in conflict; this is left in the working tree. -/
  | unsettled (blob : Option Blob)
deriving DecidableEq, Repr

/-- The version of something that a side changed. -/
def pick {α : Type} [DecidableEq α] (base ours theirs : α) : α := if ours = base then theirs else ours

/-- Merges what two sides made of a file. -/
def file (names : Names) (base ours theirs : Option Blob) : Fate :=
  if ours = theirs then .settled ours
  else if ours = base then .settled theirs
  else if theirs = base then .settled ours
  else
    match ours, theirs with
    | some a, some b =>
      let old := base.getD ⟨[], a.executable⟩
      let m := content names old.content a.content b.content
      let blob : Blob := ⟨m.content, pick old.executable a.executable b.executable⟩
      if m.clean then .settled (some blob) else .unsettled (some blob)
    | some a, none => .unsettled (some a)
    | none, some b => .unsettled (some b)
    | none, none => .settled none

/-! ## Trees -/

/-- The path under which a side has the file that a base has under another, if the side moved it. -/
def movedTo? (base side : Snapshot) (path : String) : Option String :=
  match base.get? path, side.get? path with
  | some old, none =>
    if old.content.isEmpty then none
    else
      let new := side.filter fun e => (base.get? e.1).isNone
      let same := new.find? fun e => e.2.content == old.content
      let close := new.find? fun e => (Similarity.measure? old.content e.2.content).any (50 ≤ ·)
      ((same <|> close).map (·.1))
  | _, _ => none

/-- The files that one side moved and the other changed: the old path, the new one, and the fate of the
moved file. -/
def movedFiles (names : Names) (base ours theirs : Snapshot) : List (String × String × Fate) :=
  (base.paths.filter fun p => ours.get? p != base.get? p && theirs.get? p != base.get? p).filterMap fun p =>
    match movedTo? base ours p, movedTo? base theirs p with
    | some q, none =>
      if (theirs.get? p).isSome && (theirs.get? q).isNone then
        some (p, q, file names (base.get? p) (ours.get? q) (theirs.get? p))
      else none
    | none, some q =>
      if (ours.get? p).isSome && (ours.get? q).isNone then
        some (p, q, file names (base.get? p) (ours.get? p) (theirs.get? q))
      else none
    | _, _ => none

/-- Merges what two sides made of the files of a base. A file that one side moved and the other changed
is changed where it is now. -/
def trees (names : Names) (base ours theirs : Snapshot) : List (String × Fate) :=
  let moved := movedFiles names base ours theirs
  (Snapshot.allPaths [base, ours, theirs]).map fun p =>
    match moved.find? (fun e => e.2.1 == p), moved.find? (fun e => e.1 == p) with
    | some e, _ => (p, e.2.2)
    | none, some _ => (p, .settled none)
    | none, none => (p, file names (base.get? p) (ours.get? p) (theirs.get? p))

/-! ## Patches -/

/-- The number of lines around a change that a patch looks at. -/
def context : Nat := 3

/-- Applies the change from one file to another to a third: the line at which it does not apply, or
the changed file. -/
def patch (old new target : Bytes) : Except Nat Bytes :=
  if target = old then .ok new
  else
    let base := cut old
    let wanted := editsOf base (cut new)
    let other := editsOf base (cut target)
    let disturbed (e : Edit) : Bool :=
      other.any fun o => o.start < e.stop + context && e.start < o.stop + context
        || (o.start = o.stop && o.start ≤ e.stop + context && e.start ≤ o.start + context)
    match wanted.find? disturbed with
    | some e => .error (e.start - context + 1)
    | none => .ok (mergeEdits ⟨"", ""⟩ base (wanted.length + other.length) 0 other wanted {}).content

end LintGate.Sandbox.Merge
