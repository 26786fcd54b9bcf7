/-
The stash.

A stash entry is a commit with the files of the working tree, whose second parent holds
what was staged. To set changes aside is to make such a commit and to go back to the
last one; to bring them back is to merge what the entry changed into what is there now.
-/
import LintGate.Sandbox.Git.Changes
import LintGate.Sandbox.Git.Index
import LintGate.Sandbox.Git.Merge

set_option autoImplicit false

namespace LintGate.Sandbox

/-- Takes the words of a list that are not options, and the options. -/
def splitOptions (args : List String) : List String × List String :=
  (args.filter (·.startsWith "-"), args.filter fun a => !a.startsWith "-")

namespace Site

variable (s : Site)

/-! ## Revisions -/

/-- The number between braces at the end of a name of a stash entry. -/
def entryNumber? (name : String) : Option Nat :=
  let inner := fun (n : Nat) => (String.ofList ((name.toList.drop n).dropLast)).toNat?
  if name == "stash" || name == "refs/stash" then some 0
  else if name.startsWith "stash@\x7b" then inner 7
  else if name.startsWith "refs/stash@\x7b" then inner 12
  else none

/-- The id that a name without steps stands for. -/
def baseRevision? (m : Machine) (name : String) : Option String :=
  let standing (r : String) : Option String :=
    match s.standing m.disk r with
    | .commit id => some id
    | _ => none
  if isId name then some name
  else
    match entryNumber? name with
    | some n => (s.stashIds m.disk)[n]?
    | none =>
      if name == "HEAD" || name == "@" then standing "HEAD"
      else if name.isEmpty then none
      else
        match [name, "refs/" ++ name, "refs/tags/" ++ name, "refs/heads/" ++ name].findSome? standing with
        | some id => some id
        | none =>
          if 4 ≤ name.length && name.toList.all isIdDigit then
            (m.commits.find? fun c => c.id.startsWith name).map (·.id)
          else none

/-- Follows the steps behind a name to parents. The number bounds the steps. -/
def walkParents (m : Machine) : Nat → List Char → String → Option String
  | _, [], id => some id
  | 0, _, _ => none
  | n + 1, mark :: rest, id => do
    let digits := rest.takeWhile Char.isDigit
    let count := if digits.isEmpty then 1 else ((String.ofList digits).toNat?).getD 1
    let parentsOf (id : String) : List String := ((commitOf? m id).map (·.parents)).getD []
    let next ←
      if mark = '^' then (if count = 0 then some id else (parentsOf id)[count - 1]?)
      else if mark = '~' then
        (List.range count).foldl (fun found _ => found.bind fun i => (parentsOf i).head?) (some id)
      else none
    walkParents m n (rest.drop digits.length) next

/-- The id that a revision stands for. -/
def revision? (m : Machine) (name : String) : Option String := do
  let base := name.toList.takeWhile fun c => c != '^' && c != '~'
  let id ← s.baseRevision? m (String.ofList base)
  walkParents m name.length (name.toList.drop base.length) id

/-! ## Going back -/

/-- The records of a merge and of its kin. -/
def mergeRecords : List String :=
  ["MERGE_HEAD", "MERGE_MSG", "MERGE_MODE", "MERGE_RR", "SQUASH_MSG", "CHERRY_PICK_HEAD", "REVERT_HEAD",
    "AUTO_MERGE"]

/-- Forgets a merge in progress. -/
def forgetMerge : GitAct Unit := mergeRecords.forM s.forget

/-- Makes the index and the files that it or a snapshot knows those of the snapshot. -/
def resetTo (files : Snapshot) (index : Index) : GitAct Unit := do
  let known := Snapshot.allPaths [files, index.map fun e => (e.path, e.blob)]
  s.checkOut (known.map fun p => (p, files.get? p))
  s.writeIndex (Index.ofSnapshot files)

/-! ## Setting aside -/

/-- The working tree's version of the files that the index or the last commit knows. -/
def trackedFiles (m : Machine) (index : Index) (head : Snapshot) : Snapshot :=
  let tree := s.tree m
  (Snapshot.allPaths [head, index.map fun e => (e.path, e.blob)]).filterMap fun p =>
    (Sandbox.fileAt? tree p).map fun b => (p, b)

/-- Whether there is something to set aside. -/
def hasChanges (m : Machine) (index : Index) (head : Snapshot) : Bool :=
  let tree := s.tree m
  index.files != head || index.any fun e => e.intended || Sandbox.fileAt? tree e.path != some e.blob

/-- The first line of a commit on a branch. -/
def workSubject (disk : Folder) (head : Commit) (label : String) : String :=
  if label.isEmpty then
    "WIP on " ++ s.branchName disk ++ ": " ++ (head.id.take 7).toString ++ " " ++ subjectOf head.subject
  else "On " ++ s.branchName disk ++ ": " ++ label

/-- Refuses an index that cannot be brought up to date. -/
def refreshIndex (index : Index) : GitAct Unit := do
  if s.isLocked (← get) then throw { status := .exit 1 }
  let unmerged := index.filter (·.unmerged)
  if !unmerged.isEmpty then
    throw { status := .exit 1,
            out := Bytes.ofText (String.join (unmerged.map fun e => e.path ++ ": needs merge\n")) }

/-- Sets changes aside under a label. -/
def stashPush (label : String) (keepIndex quiet : Bool) : GitAct Result := do
  let index ← s.index
  s.refreshIndex index
  let m ← get
  match s.headCommit? m with
  | none => throw (.failure 1 (if quiet then "" else "You do not have the initial commit yet\n"))
  | some head =>
    if !s.hasChanges m index head.files then
      return if quiet then {} else .text "No local changes to save\n"
    else
      match index.find? (·.intended) with
      | some e => GitAct.fail ("error: Entry '" ++ e.path ++ "' not uptodate. Cannot merge.\n")
      | none =>
        let staged := index.files
        let subject := s.workSubject m.disk head label
        let i ← store [head.id] ("index on " ++ s.branchName m.disk) staged
        let w ← store [head.id, i] subject (s.trackedFiles m index head.files)
        s.setStash (s.stashLines m.disk ++ [stashLine w (" ".intercalate (Text.pieces subject))])
        s.resetTo head.files index
        s.forgetMerge
        if keepIndex then s.resetTo staged (Index.ofSnapshot head.files)
        return if quiet then {} else .text ("Saved working directory and index state " ++ subject ++ "\n")

/-! ## Bringing back -/

/-- The parts of a stash entry: the commit it was made on, what was staged, and the working tree. -/
structure Held where
  base : Snapshot
  staged : Snapshot
  tree : Snapshot

/-- The stash entry that a commit is. -/
def held? (m : Machine) (id : String) : Option Held := do
  let w ← commitOf? m id
  let b ← commitOf? m (← w.parents[0]?)
  let i ← commitOf? m (← w.parents[1]?)
  return ⟨b.files, i.files, w.files⟩

/-- The revision that the argument of a stash command means. -/
def entryRevision (name : String) : String :=
  if name.toList.all Char.isDigit then "refs/stash@\x7b" ++ name ++ "\x7d" else name

/-- Finds a stash entry. -/
def stashEntry (args : List String) : GitAct (String × Held) := do
  let m ← get
  match args with
  | _ :: second :: _ => GitAct.fail ("Too many revisions specified: '" ++ second ++ "'\n")
  | [] =>
    match (s.stashIds m.disk).head? with
    | none => GitAct.fail "No stash entries found.\n"
    | some id =>
      match held? m id with
      | some h => return (id, h)
      | none => GitAct.die "'refs/stash@\x7b0\x7d' is not a stash-like commit"
  | [name] =>
    let revision := entryRevision name
    match s.revision? m revision with
    | none => GitAct.fail ("error: " ++ revision ++ " is not a valid reference\n")
    | some id =>
      match held? m id with
      | some h => return (id, h)
      | none => GitAct.die ("'" ++ revision ++ "' is not a stash-like commit")

/-- Applies what was staged to what is staged now. The errors come first. -/
def applyStaged (h : Held) (now : Snapshot) : List String × Snapshot :=
  (Delta.between h.base h.staged).foldl (fun (errors, files) d =>
    let failed (line : Nat) : List String :=
      [s!"error: patch failed: {d.path}:{line}\n", "error: " ++ d.path ++ ": patch does not apply\n"]
    match d.old, d.new, files.get? d.path with
    | none, some b, none => (errors, files.put d.path b)
    | none, some _, some _ => (errors ++ ["error: " ++ d.path ++ ": already exists in index\n"], files)
    | some _, _, none => (errors ++ ["error: " ++ d.path ++ ": does not exist in index\n"], files)
    | some a, none, some c =>
      if a.content = c.content then (errors, files.erase d.path) else (errors ++ failed 1, files)
    | some a, some b, some c =>
      match Merge.patch a.content b.content c.content with
      | .ok content => (errors, files.put d.path ⟨content, b.executable⟩)
      | .error line => (errors ++ failed line, files)
    | none, none, _ => (errors, files)) ([], now)

/-- What becomes of the files that a stash entry brings back. -/
def fates (h : Held) (now : Snapshot) : List (String × Merge.Fate) :=
  let names : Merge.Names :=
    ⟨if h.base = now then "Version stash was based on" else "Updated upstream", "Stashed changes"⟩
  Merge.trees names h.base now h.tree

/-- The message on files that a merge would overwrite. -/
def overwriteMessage (kind advice action : String) (paths : List String) : String :=
  if paths.isEmpty then ""
  else
    "error: " ++ kind ++ " would be overwritten by " ++ action ++ ":\n"
      ++ String.join (paths.map fun p => "\t" ++ p ++ "\n")
      ++ "Please " ++ advice ++ "\n"

/-- The message on changed and on unknown files that changes of files would overwrite. -/
def overwritten (m : Machine) (now : Snapshot) (action before : String) (paths : List String) : String :=
  let tree := s.tree m
  let dirty := paths.filter fun p =>
    match now.get? p, Sandbox.fileAt? tree p with
    | some old, some there => old != there
    | _, _ => false
  let unknown := paths.filter fun p => (now.get? p).isNone && (Sandbox.fileAt? tree p).isSome
  let told := overwriteMessage "Your local changes to the following files"
      ("commit your changes or stash them before you " ++ before) action dirty
    ++ overwriteMessage "The following untracked working tree files"
      ("move or remove them before you " ++ before) action unknown
  if told.isEmpty then "" else told ++ "Aborting\n"

/-- Brings the changes of a stash entry back. -/
def stashApply (h : Held) (withIndex : Bool) : GitAct Unit := do
  let index ← s.index
  s.refreshIndex index
  let m ← get
  let now := index.files
  let head := s.headFiles m
  let failure (message : String) : GitAct Unit :=
    GitAct.fail (message ++ if withIndex then "Index was not unstashed.\n" else "")
  let separate := withIndex && h.base != h.staged && now != h.staged
  let (errors, staged) := if separate then applyStaged h now else ([], now)
  if !errors.isEmpty then GitAct.fail (String.join errors ++ "error: conflicts in index. Try without --index.\n")
  if separate then s.writeIndex (Index.ofSnapshot head)
  let apart := if separate then (Delta.between head now).map (·.path) else []
  if !apart.isEmpty then
    failure ("error: Your local changes to the following files would be overwritten by merge:\n  "
      ++ " ".intercalate apart ++ "\n")
  let all := fates h now
  let touched := all.filter fun (p, fate) => fate != .settled (now.get? p)
    || (now.get? p != h.base.get? p && h.tree.get? p != h.base.get? p && now.get? p != h.tree.get? p)
  let message := s.overwritten m now "merge" "merge." (touched.map (·.1))
  if !message.isEmpty then failure message
  s.checkOut (touched.map fun (p, fate) =>
    match fate with
    | .settled blob => (p, blob)
    | .unsettled blob => (p, blob))
  let merged := touched.foldl (fun (i : Index) (p, fate) =>
    match fate with
    | .settled blob => i.stage p blob
    | .unsettled blob => i.put { path := p, blob := blob.getD ⟨[], false⟩, unmerged := true })
    (Index.ofSnapshot now)
  if merged.any (·.unmerged) then
    s.writeIndex merged
    failure ""
  else if separate then s.writeIndex (Index.ofSnapshot staged)
  else
    s.writeIndex (merged.foldl (fun (i : Index) e => if (now.get? e.path).isSome then i else i.put e)
      (Index.ofSnapshot now))

/-! ## The commands -/

/-- A stash entry as a format asks for it. -/
def entryText (m : Machine) (format : List Char) (position : Nat) (id : String) : String :=
  let subject := ((commitOf? m id).map (·.subject)).getD ""
  let rec expand : List Char → String
    | '%' :: 'H' :: rest => id ++ expand rest
    | '%' :: 'h' :: rest => (id.take 7).toString ++ expand rest
    | '%' :: 's' :: rest => subjectOf subject ++ expand rest
    | '%' :: 'g' :: 's' :: rest => subjectOf subject ++ expand rest
    | '%' :: 'g' :: 'd' :: rest => s!"stash@\x7b{position}\x7d" ++ expand rest
    | '%' :: 'n' :: rest => "\n" ++ expand rest
    | '%' :: '%' :: rest => "%" ++ expand rest
    | c :: rest => c.toString ++ expand rest
    | [] => ""
  expand format

/-- Lists the stash. -/
def stashList (args : List String) : GitAct Result := do
  let m ← get
  let given := args.findSome? fun a =>
    if a.startsWith "--format=" then some (a.drop 9).toString
    else if a.startsWith "--pretty=format:" then some (a.drop 16).toString
    else if a.startsWith "--pretty=" then some (a.drop 9).toString
    else none
  let format := (given.getD "%gd: %gs").toList
  return .text (String.join ((s.stashIds m.disk).zipIdx.map fun (id, n) => entryText m format n id ++ "\n"))

/-- Forgets a stash entry. -/
def stashDrop (args : List String) : GitAct Result := do
  let lines := s.stashLines (← get).disk
  match args with
  | [] =>
    if lines.isEmpty then GitAct.fail "No stash entries found.\n"
    else
      s.setStash lines.dropLast
      return {}
  | name :: _ =>
    let revision := entryRevision name
    match entryNumber? revision with
    | none => GitAct.fail ("error: '" ++ name ++ "' is not a stash reference\n")
    | some n =>
      if n < lines.length then
        s.setStash (lines.eraseIdx (lines.length - 1 - n))
        return {}
      else GitAct.fail ("error: " ++ revision ++ " is not a valid reference\n")

/-- The label among the arguments of a push. -/
def labelOf : List String → String
  | "-m" :: label :: _ => label
  | "--message" :: label :: _ => label
  | a :: rest => if a.startsWith "--message=" then (a.drop 10).toString else labelOf rest
  | [] => ""

/-- Sets changes aside as the arguments ask for. -/
def stashPushArgs (args : List String) : GitAct Result :=
  s.stashPush (labelOf args) (args.contains "--keep-index" || args.contains "-k")
    (args.contains "--quiet" || args.contains "-q")

/-- Carries out a command of the stash. -/
def stash (args : List String) : GitAct Result := do
  match args with
  | [] => s.stashPushArgs []
  | "push" :: rest => s.stashPushArgs rest
  | "save" :: rest => s.stashPush (" ".intercalate (splitOptions rest).2) (rest.contains "--keep-index") false
  | "list" :: rest => s.stashList rest
  | "apply" :: rest =>
    let (options, names) := splitOptions rest
    let (_, h) ← s.stashEntry names
    s.stashApply h (options.contains "--index")
    return {}
  | "pop" :: rest =>
    let (options, names) := splitOptions rest
    let (_, h) ← s.stashEntry names
    s.stashApply h (options.contains "--index")
    s.stashDrop names
  | "drop" :: rest => s.stashDrop (splitOptions rest).2
  | "clear" :: _ =>
    s.setStash []
    return {}
  | "show" :: _ => return {}
  | option :: rest =>
    if option.startsWith "-" then s.stashPushArgs (option :: rest)
    else throw (.failure 1 ("error: unknown subcommand: \x60" ++ option ++ "'\n"))

end Site

end LintGate.Sandbox
