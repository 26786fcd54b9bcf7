/-
The commands of the version control.

A command is found by its name and works on the repository of the nearest directory
that has one.
-/
import LintGate.Sandbox.Git.Stash

set_option autoImplicit false

namespace LintGate.Sandbox

namespace Site

variable (s : Site)

/-! ## Paths -/

/-- A path of a command, as seen from the working tree. -/
def relative (cwd path : String) : String :=
  let steps := (Path.steps (Path.join cwd path)).foldl (fun up p => if p == ".." then up.dropLast else up ++ [p]) []
  "/".intercalate (steps.drop s.root.length)

/-- All files of the working tree. -/
def treeFiles (m : Machine) : Snapshot := Snapshot.ofFolder (s.tree m)

/-! ## Staging -/

/-- The index as a snapshot of all its paths. -/
def listed (i : Index) : Snapshot := i.map fun e => (e.path, e.blob)

/-- Stages the files that paths mean; `known` alone counts if nothing new is to be listed. -/
def stagePaths (onlyKnown : Bool) (paths : List String) : GitAct Unit := do
  s.lockIndex
  let mut index ← s.index
  let files := s.treeFiles (← get)
  for path in paths do
    let there := files.below path
    let known := (listed index).below path
    if there.isEmpty && known.isEmpty && !path.isEmpty then
      GitAct.die ("pathspec '" ++ path ++ "' did not match any files")
    for p in Snapshot.allPaths [if onlyKnown then [] else there, known] do
      index := index.stage p (files.get? p)
  s.writeIndex index

/-- Lists files for which nothing is staged yet. -/
def intendPaths (paths : List String) : GitAct Unit := do
  s.lockIndex
  let mut index ← s.index
  let files := s.treeFiles (← get)
  for path in paths do
    let there := files.below path
    if there.isEmpty then GitAct.die ("pathspec '" ++ path ++ "' did not match any files")
    for (p, b) in there do
      if (index.get? p).isNone then index := index.put { path := p, blob := ⟨[], b.executable⟩, intended := true }
  s.writeIndex index

/-- Stages what a command asks for. -/
def add (cwd : String) (args : List String) : GitAct Result := do
  let (options, paths) := splitOptions args
  let has (names : List String) : Bool := names.any options.contains
  if paths.contains "" then
    GitAct.die "empty string is not a valid pathspec. please use . instead if you meant to match all paths"
  let paths := paths.map (s.relative cwd)
  if has ["-N", "--intent-to-add"] then
    s.intendPaths paths
    return {}
  else
    let all := has ["-A", "--all", "-u", "--update"]
    if paths.isEmpty && !all then return {}
    s.stagePaths (has ["-u", "--update"]) (if paths.isEmpty then [""] else paths)
    return {}

/-! ## Committing -/

/-- The message among the arguments of a commit. -/
def messageOf : List String → List String
  | "-m" :: text :: rest => text :: messageOf rest
  | "--message" :: text :: rest => text :: messageOf rest
  | a :: rest =>
    if a.startsWith "--message=" then (a.drop 10).toString :: messageOf rest
    else if a.startsWith "-" && !a.startsWith "--" && a.endsWith "m" then
      match rest with
      | text :: rest => text :: messageOf rest
      | [] => []
    else messageOf rest
  | [] => []

/-- The letters of options of one dash. -/
def lettersOf (args : List String) : List Char :=
  (args.filter fun a => a.startsWith "-" && !a.startsWith "--").flatMap fun a => a.toList.drop 1

/-- The commit that is being merged, if there is one. -/
def mergedCommits (disk : Folder) : List String :=
  match s.text? "MERGE_HEAD" disk with
  | some t => ((Text.pieces t).map withoutTail).filter isId
  | none => []

/-- Makes a commit of what is staged. -/
def commit (args : List String) : GitAct Result := do
  s.lockIndex
  let m ← get
  let has (names : List String) : Bool := names.any args.contains
  let known ← s.index
  if known.any (·.unmerged) && !(lettersOf args).contains 'a' then
    GitAct.die "Exiting because of an unresolved conflict."
  if (lettersOf args).contains 'a' || has ["--all"] then s.stagePaths true [""]
  let index ← s.index
  let amend := has ["--amend"]
  match s.head m.disk with
  | .broken =>
    GitAct.die ("cannot lock ref 'HEAD': unable to resolve reference '" ++ (s.branchRecord? m.disk).getD "HEAD"
      ++ "': reference broken")
  | _ =>
    let merging := s.mergedCommits m.disk
    let head := s.headCommit? m
    if index.files == s.headFiles m && merging.isEmpty && !amend && !has ["--allow-empty"] then
      throw { status := .exit 1, out := Bytes.ofText "nothing to commit, working tree clean\n" }
    else
      let texts := messageOf args
      let message :=
        if texts.isEmpty then
          (if amend then (head.map (·.subject)).getD "" else (s.text? "MERGE_MSG" m.disk).getD "")
        else "\n\n".intercalate texts
      if withoutTail message == "" && !has ["--allow-empty-message"] then
        GitAct.fail "Aborting commit due to empty commit message.\n"
      let parents :=
        if amend then (head.map (·.parents)).getD [] else (head.map (·.id)).toList ++ merging
      let id ← store parents message index.files
      s.moveHead id
      s.forgetMerge
      return {}

/-! ## Moving and removing files -/

/-- Moves a file or a directory, in the working tree and in the index. -/
def move (cwd : String) (args : List String) : GitAct Result := do
  let (options, paths) := splitOptions args
  match paths.map (s.relative cwd) with
  | [source, target] =>
    s.lockIndex
    let m ← get
    let index ← s.index
    let tree := s.tree m
    let told := "source=" ++ source ++ ", destination=" ++ target
    let isFolder (p : String) : Bool := (tree.folderAt? (Path.steps p)).isSome
    let target := if isFolder target then Path.join target ((Path.fileName? source).getD "") else target
    let known := (listed index).below source
    if (tree.at? ("/" ++ source)).toOption.isNone then GitAct.die ("bad source, " ++ told)
    if known.isEmpty then
      GitAct.die
        ((if isFolder source then "source directory is empty, " else "not under version control, ") ++ told)
    if (Sandbox.fileAt? tree target).isSome && !(options.contains "-f" || options.contains "--force") then
      GitAct.die ("destination exists, " ++ told)
    if !isFolder ("/".intercalate (Path.steps target).dropLast) then
      GitAct.die ("renaming '" ++ source ++ "' failed: No such file or directory")
    let renamed (p : String) : String := target ++ (p.drop source.length).toString
    let files := (s.treeFiles m).below source
    s.checkOut (files.map fun e => (e.1, none))
    s.checkOut (files.map fun e => (renamed e.1, some e.2))
    let moved := known.foldl (fun (i : Index) e =>
      match index.get? e.1 with
      | some item => i.put { item with path := renamed e.1 }
      | none => i) (known.foldl (fun (i : Index) e => i.erase e.1) index)
    s.writeIndex moved
    return {}
  | _ => throw (.failure 129 "usage: git mv [-v] [-f] [-n] [-k] <source> <destination>\n")

/-- Why a file must not be removed without force. -/
def removalFault (m : Machine) (index : Index) (head : Snapshot) (cached : Bool) (path : String) : Bool :=
  match index.get? path, s.fileAt? m path with
  | some item, some there =>
    let local_ := there != item.blob
    let staged := head.get? path != some item.blob
    if cached then local_ && staged else local_ || staged
  | _, _ => false

/-- Removes files from the index, and from the working tree unless only the index is meant. -/
def remove (cwd : String) (args : List String) : GitAct Result := do
  let (options, paths) := splitOptions args
  let letters := lettersOf args
  let cached := options.contains "--cached"
  s.lockIndex
  let m ← get
  let mut index ← s.index
  let mut doomed : List String := []
  for path in paths.map (s.relative cwd) do
    let known := (listed index).below path
    if known.isEmpty then GitAct.die ("pathspec '" ++ path ++ "' did not match any files")
    if !letters.contains 'r' && known.all (fun e => e.1 != path) then
      GitAct.die ("not removing '" ++ path ++ "' recursively without -r")
    doomed := doomed ++ known.paths
  let head := s.headFiles m
  let kept := doomed.filter (s.removalFault m index head cached)
  if !kept.isEmpty && !letters.contains 'f' then
    GitAct.fail ("error: the following file has local modifications:\n"
      ++ String.join (kept.map fun p => "    " ++ p ++ "\n")
      ++ "(use --cached to keep the file, or -f to force removal)\n")
  for p in doomed do
    index := index.erase p
  if !cached then s.checkOut (doomed.map fun p => (p, none))
  s.writeIndex index
  return {}

/-! ## Checking out -/

/-- Goes from what is checked out to a commit, and keeps changes that are not in the way. -/
def switchTo (target : Commit) : GitAct Unit := do
  s.lockIndex
  let m ← get
  let index ← s.index
  if index.any (·.unmerged) then GitAct.fail "error: you need to resolve your current index first\n"
  let head := s.headFiles m
  let changed := Delta.between head target.files
  let staged := changed.filter fun d =>
    let here := (index.get? d.path).map (·.blob)
    here != d.old && here != d.new
  let moving := changed.filter fun d => (index.get? d.path).map (·.blob) != d.new
  let message := s.overwritten m (listed index) "checkout" "switch branches." (moving.map (·.path))
  if !staged.isEmpty then
    GitAct.fail (overwriteMessage "Your local changes to the following files"
      "commit your changes or stash them before you switch branches." "checkout" (staged.map (·.path))
      ++ "Aborting\n")
  if !message.isEmpty then GitAct.fail message
  s.checkOut (moving.map fun d => (d.path, d.new))
  s.writeIndex (moving.foldl (fun i d => i.stage d.path d.new) index)

/-- Brings files of the index back into the working tree. -/
def restore (paths : List String) : GitAct Unit := do
  let index ← s.index
  for path in paths do
    let known := (index.files).below path
    if known.isEmpty && !path.isEmpty then
      GitAct.fail ("error: pathspec '" ++ path ++ "' did not match any file(s) known to git\n")
    s.checkOut (known.map fun e => (e.1, some e.2))

/-- Brings files of a commit into the index and the working tree. -/
def restoreFrom (files : Snapshot) (paths : List String) : GitAct Unit := do
  for path in paths do
    let known := files.below path
    if known.isEmpty && !path.isEmpty then
      GitAct.fail ("error: pathspec '" ++ path ++ "' did not match any file(s) known to git\n")
    let index ← s.index
    s.checkOut (known.map fun e => (e.1, some e.2))
    s.writeIndex (known.foldl (fun (i : Index) e => i.stage e.1 (some e.2)) index)

/-- Makes a new branch the one that is checked out. -/
def startBranch (name : String) (start : Option String) : GitAct Unit := do
  let m ← get
  let record := "refs/heads/" ++ name
  if s.standing m.disk record != .missing then GitAct.die ("a branch named '" ++ name ++ "' already exists")
  match start with
  | some revision =>
    match (s.revision? m revision).bind (commitOf? m) with
    | none =>
      GitAct.die ("'" ++ revision ++ "' is not a commit and a branch '" ++ name
        ++ "' cannot be created from it")
    | some c =>
      s.switchTo c
      s.write record (c.id ++ "\n")
  | none =>
    match s.headCommit? m with
    | some c => s.write record (c.id ++ "\n")
    | none => pure ()
  s.write "HEAD" ("ref: " ++ record ++ "\n")

/-- Checks out a branch, a commit or files. -/
def checkout (cwd : String) (args : List String) : GitAct Result := do
  let m ← get
  let (front, back) := (args.takeWhile (· != "--"), (args.dropWhile (· != "--")).drop 1)
  let (options, names) := splitOptions front
  let detach := options.contains "--detach" || options.contains "-d"
  if ["-b", "-B", "-c", "-C"].any options.contains then
    match names with
    | [] => throw (.failure 129 "error: switch needs a name\n")
    | name :: rest =>
      s.startBranch name rest.head?
      s.forgetMerge
  else
    match names, back with
    | [], [] =>
      if detach then
        match s.headCommit? m with
        | some c => s.write "HEAD" (c.id ++ "\n")
        | none => GitAct.die "You are on a branch yet to be born"
      else if options.contains "-f" || options.contains "--force" then
        let index ← s.index
        s.resetTo (s.headFiles m) index
    | [], paths => s.restore (paths.map (s.relative cwd))
    | name :: rest, back =>
      let isBranch := s.standing m.disk ("refs/heads/" ++ name) != .missing
      match (s.revision? m name).bind (commitOf? m), rest ++ back with
      | some c, [] =>
        s.switchTo c
        s.forgetMerge
        if isBranch && !detach then s.write "HEAD" ("ref: refs/heads/" ++ name ++ "\n")
        else s.write "HEAD" (c.id ++ "\n")
      | some c, paths => s.restoreFrom c.files (paths.map (s.relative cwd))
      | none, _ => s.restore ((name :: rest ++ back).map (s.relative cwd))
  return {}

/-- Moves what is checked out, and makes the index and the files follow. -/
def reset (cwd : String) (args : List String) : GitAct Result := do
  s.lockIndex
  let m ← get
  let (options, names) := splitOptions args
  let index ← s.index
  let (revision, paths) :=
    match names with
    | [] => ("HEAD", [])
    | name :: rest =>
      if (s.revision? m name).isSome then (name, rest)
      else if (s.fileAt? m name).isSome || (index.get? name).isSome then ("HEAD", names) else (name, rest)
  let unknown : GitAct Unit :=
    GitAct.die ("ambiguous argument '" ++ revision ++ "': unknown revision or path not in the working tree.\n"
      ++ "Use '--' to separate paths from revisions, like this:\n"
      ++ "'git <command> [<revision>...] -- [<file>...]'")
  let target := (s.revision? m revision).bind (commitOf? m)
  if target.isNone && !(revision == "HEAD" && s.head m.disk == .missing) then unknown
  let files : Snapshot := (target.map (·.files)).getD []
  if !paths.isEmpty then
    let mut index := index
    for path in paths.map (s.relative cwd) do
      for p in Snapshot.allPaths [files.below path, (listed index).below path] do
        index := index.stage p (files.get? p)
    s.writeIndex index
  else
    if options.contains "--hard" then s.resetTo files index
    else if !options.contains "--soft" then s.writeIndex (Index.ofSnapshot files)
    if let some c := target then s.moveHead c.id
    if !options.contains "--soft" then s.forgetMerge
  return {}

/-! ## Merging -/

/-- The commits before a commit and itself. The number bounds the way. -/
def ancestors (m : Machine) : Nat → List String → List String → List String
  | 0, _, seen => seen
  | _, [], seen => seen
  | n + 1, id :: rest, seen =>
    if seen.contains id then ancestors m n rest seen
    else ancestors m n (rest ++ ((commitOf? m id).map (·.parents)).getD []) (seen ++ [id])

/-- Merges a commit. -/
def merge (args : List String) : GitAct Result := do
  let m ← get
  let (options, names) := splitOptions args
  let names := if options.contains "-m" then names.drop 1 else names
  let name := names.headD ""
  match (s.revision? m name).bind (commitOf? m), s.headCommit? m with
  | none, _ => GitAct.fail ("merge: " ++ name ++ " - not something we can merge\n")
  | some theirs, none =>
    s.resetTo theirs.files []
    s.moveHead theirs.id
    return {}
  | some theirs, some ours =>
    let bound := (m.commits.length + 1) * (m.commits.length + 1)
    let mine := ancestors m bound [ours.id] []
    let other := ancestors m bound [theirs.id] []
    if mine.contains theirs.id then return .text "Already up to date.\n"
    if other.contains ours.id && !options.contains "--no-ff" then
      s.switchTo theirs
      s.moveHead theirs.id
      return {}
    let base : Snapshot := (((mine.find? other.contains).bind (commitOf? m)).map (·.files)).getD []
    let index ← s.index
    let apart := (Delta.between ours.files index.files).map (·.path)
    if !apart.isEmpty then
      GitAct.fail ("error: Your local changes to the following files would be overwritten by merge:\n  "
        ++ " ".intercalate apart ++ "\n")
    let names : Merge.Names := ⟨"HEAD", name⟩
    let touched := (Merge.trees names base ours.files theirs.files).filter fun (p, fate) =>
      fate != .settled (ours.files.get? p)
    let message := s.overwritten m ours.files "merge" "merge." (touched.map (·.1))
    if !message.isEmpty then GitAct.fail message
    s.checkOut (touched.map fun (p, fate) =>
      match fate with
      | .settled blob => (p, blob)
      | .unsettled blob => (p, blob))
    let merged := touched.foldl (fun (i : Index) (p, fate) =>
      match fate with
      | .settled blob => i.stage p blob
      | .unsettled blob => i.put { path := p, blob := blob.getD ⟨[], false⟩, unmerged := true })
      (Index.ofSnapshot ours.files)
    s.writeIndex merged
    let title := "Merge branch '" ++ name ++ "'"
    let conflicted := merged.any (·.unmerged)
    if conflicted || options.contains "--no-commit" then
      s.write "MERGE_HEAD" (theirs.id ++ "\n")
      s.write "MERGE_MSG" (title ++ "\n")
      s.write "MERGE_MODE" (if options.contains "--no-ff" then "no-ff" else "")
      if conflicted then throw { status := .exit 1 } else return {}
    else
      let id ← store [ours.id, theirs.id] title merged.files
      s.moveHead id
      return {}

/-! ## Smaller commands -/

/-- Makes or lists branches. -/
def branch (args : List String) : GitAct Result := do
  let m ← get
  let (options, names) := splitOptions args
  let has (os : List String) : Bool := os.any options.contains
  match names with
  | [] => return {}
  | name :: rest =>
    let record := "refs/heads/" ++ name
    if has ["-d", "-D", "--delete"] then
      s.forget record
      return {}
    else if has ["-m", "-M"] then
      match rest, s.branchRecord? m.disk with
      | [], some old =>
        if let .commit id := s.standing m.disk old then
          s.forget old
          s.write record (id ++ "\n")
        s.write "HEAD" ("ref: " ++ record ++ "\n")
        return {}
      | _, _ => return {}
    else if s.standing m.disk record != .missing && !has ["-f", "--force"] then
      GitAct.die ("a branch named '" ++ name ++ "' already exists")
    else
      match s.revision? m (rest.headD "HEAD") with
      | some id =>
        s.write record (id ++ "\n")
        return {}
      | none => GitAct.die ("not a valid object name: '" ++ rest.headD "HEAD" ++ "'")

/-- Makes the index that of a commit. -/
def readTree (args : List String) : GitAct Result := do
  s.lockIndex
  let m ← get
  let (options, names) := splitOptions args
  if options.contains "--empty" then
    s.writeIndex []
    return {}
  else
    let name := names.headD "HEAD"
    match (s.revision? m name).bind (commitOf? m) with
    | some c =>
      s.writeIndex (Index.ofSnapshot c.files)
      return {}
    | none => GitAct.die ("Not a valid object name " ++ name)

/-- Changes entries of the index. -/
def updateIndex (cwd : String) (args : List String) : GitAct Result := do
  s.lockIndex
  let m ← get
  let (options, paths) := splitOptions args
  let mut index ← s.index
  for path in paths.map (s.relative cwd) do
    match index.get? path, s.fileAt? m path with
    | some item, there =>
      if options.contains "--chmod=+x" then
        index := index.put { item with blob := { item.blob with executable := true } }
      else if options.contains "--chmod=-x" then
        index := index.put { item with blob := { item.blob with executable := false } }
      else if options.contains "--force-remove" then index := index.erase path
      else if there.isSome || options.contains "--remove" then index := index.stage path there
      else
        GitAct.die ("Unable to process path " ++ path)
    | none, some b =>
      if options.contains "--add" then index := index.stage path (some b)
      else throw (.failure 128 ("error: " ++ path
        ++ ": cannot add to the index - missing --add option?\nfatal: Unable to process path "
        ++ path ++ "\n"))
    | none, none => throw (.failure 128 ("error: " ++ path
        ++ ": does not exist and --remove not passed\nfatal: Unable to process path "
        ++ path ++ "\n"))
  s.writeIndex index
  return {}

/-- Tells by the status whether there are changes. -/
def diff (args : List String) : GitAct Result := do
  let m ← get
  let index ← s.index
  let changed :=
    if args.contains "--cached" || args.contains "--staged" then index.files != s.headFiles m
    else index.any fun e => s.fileAt? m e.path != some e.blob
  return if changed && (args.contains "--quiet" || args.contains "--exit-code") then { status := .exit 1 } else {}

/-- Tells what a revision stands for. -/
def revParse (args : List String) : GitAct Result := do
  let m ← get
  let (options, names) := splitOptions args
  if options.contains "--show-toplevel" then return .text (pathOf s.root ++ "\n")
  else if options.contains "--git-dir" then return .text ".git\n"
  else
    match names with
    | [] => return {}
    | name :: _ =>
      match s.revision? m name with
      | some id => return .text (id ++ "\n")
      | none =>
        if options.contains "-q" || options.contains "--quiet" then throw { status := .exit 1 }
        else GitAct.die "Needed a single revision"

/-- Carries out a command in a repository. -/
def command (name : String) (cwd : String) (args : List String) : GitAct Result := do
  match name with
  | "add" => s.add cwd args
  | "stage" => s.add cwd args
  | "commit" => s.commit args
  | "mv" => s.move cwd args
  | "rm" => s.remove cwd args
  | "checkout" => s.checkout cwd args
  | "switch" => s.checkout cwd args
  | "reset" => s.reset cwd args
  | "stash" => s.stash args
  | "merge" => s.merge args
  | "branch" => s.branch args
  | "read-tree" => s.readTree args
  | "update-index" => s.updateIndex cwd args
  | "diff" => s.diff args
  | "rev-parse" => s.revParse args
  | "restore" =>
    let (options, paths) := splitOptions args
    if options.contains "--staged" then s.reset cwd ("HEAD" :: paths)
    else
      s.restore (paths.map (s.relative cwd))
      return {}
  | "update-ref" =>
    match args with
    | [record, value] =>
      match s.revision? (← get) value with
      | some id => if record == "HEAD" then s.moveHead id else s.write record (id ++ "\n")
      | none => GitAct.die (value ++ ": not a valid SHA1")
    | _ => s.forget ((splitOptions args).2.headD "")
    return {}
  | "symbolic-ref" =>
    match (splitOptions args).2 with
    | [record, target] => s.write record ("ref: " ++ target ++ "\n")
    | _ => pure ()
    return {}
  | "tag" =>
    match (splitOptions args).2, s.head (← get).disk with
    | tag :: _, .commit id => s.write ("refs/tags/" ++ tag) (id ++ "\n")
    | _, _ => pure ()
    return {}
  | _ =>
    if ["status", "log", "show", "config", "gc", "ls-files", "diff-index", "diff-files", "prune",
        "fsck"].contains name then
      return {}
    else throw (.failure 1 ("git: '" ++ name ++ "' is not a git command. See 'git --help'.\n"))

end Site

/-! ## Making repositories -/

/-- The records of a new repository. -/
def newRecords (branch : String) (bare : Bool) (old : Folder) : Folder :=
  let keep (name : String) (e : Entry) (f : Folder) : Folder := if (f.get? name).isSome then f else f.put name e
  let word := if bare then "true" else "false"
  let config := "[core]\n\trepositoryformatversion = 0\n\tfilemode = true\n\tbare = " ++ word ++ "\n"
  let file (t : String) : Entry := .file (Bytes.ofText t) false
  keep "HEAD" (file ("ref: refs/heads/" ++ branch ++ "\n")) (keep "config" (file config)
    (keep "description" (file "Unnamed repository; edit this file 'description' to name the repository.\n")
      (keep "hooks" (.folder []) (keep "info" (.folder [])
        (keep "objects" (.folder [("info", .folder []), ("pack", .folder [])])
          (keep "refs" (.folder [("heads", .folder []), ("tags", .folder [])]) old))))))

/-- The name of the first branch among arguments. -/
def branchArg : List String → String
  | "-b" :: name :: _ => name
  | "--initial-branch" :: name :: _ => name
  | a :: rest => if a.startsWith "--initial-branch=" then (a.drop 17).toString else branchArg rest
  | [] => "master"

/-- Words that are neither options nor the name of a branch. -/
def directoryArgs : List String → List String
  | "-b" :: _ :: rest => directoryArgs rest
  | "--initial-branch" :: _ :: rest => directoryArgs rest
  | a :: rest => if a.startsWith "-" then directoryArgs rest else a :: directoryArgs rest
  | [] => []

/-- Makes a repository. -/
def initRepository (cwd : String) (args : List String) : StateM Machine Result := do
  let bare := args.contains "--bare"
  let steps := Path.steps (Path.join cwd ((directoryArgs args).headD ""))
  let dir := if bare then steps else steps ++ [recordsName]
  modify fun m => m.edit (·.changeAt (fun f => .ok (newRecords (branchArg args) bare f)) (dir.filter (· != ".")))
  return {}

/-- Takes the options in front of a command: the directory, the name of the command and its arguments. -/
def leadingOptions : String → List String → String × List String
  | cwd, "-C" :: dir :: rest => leadingOptions (Path.join cwd dir) rest
  | cwd, "-c" :: _ :: rest => leadingOptions cwd rest
  | cwd, "--no-pager" :: rest => leadingOptions cwd rest
  | cwd, args => (cwd, args)

/-- Runs a command of the version control. -/
def runGit (call : Call) : StateM Machine Result := do
  let (cwd, args) := leadingOptions call.cwd call.args
  match args with
  | [] =>
    return .failure 1 ("usage: git [-v | --version] [-h | --help] [-C <path>] [-c <name>=<value>] "
      ++ "<command> [<args>]\n")
  | "init" :: rest => initRepository cwd rest
  | "--version" :: _ => return .text "git version 2.43.0\n"
  | "version" :: _ => return .text "git version 2.43.0\n"
  | name :: rest =>
    let disk := (← get).disk
    match findSite (fun f => holdsRecords f && hasSoundHead f) disk cwd with
    | none => return .failure 128 "fatal: not a git repository (or any of the parent directories): .git\n"
    | some s =>
      if s.bare && ["add", "commit", "stash", "mv", "rm", "checkout", "reset"].contains name then
        return .failure 128 "fatal: this operation must be run in a work tree\n"
      else
        match ← (s.command name cwd rest).run with
        | .ok r => return r
        | .error r => return r

end LintGate.Sandbox
