/-
The index: what is staged.

An index lists files by path, with what was staged of each. A path can be listed for
which nothing has been staged yet. The index is kept in a file, so it can be missing,
in which case it lists nothing, or damaged.
-/
import LintGate.Sandbox.Git.Records

set_option autoImplicit false

namespace LintGate.Sandbox

/-- A path of the index. -/
structure Item where
  path : String
  blob : Blob
  /-- Nothing is staged yet. -/
  intended : Bool := false
  /-- Both sides of a merge changed the file, and nobody has settled it. -/
  unmerged : Bool := false
deriving DecidableEq, Repr

/-- What is staged, in the order of the paths. -/
abbrev Index := List Item

/-- Why an index cannot be read. -/
inductive IndexFault where
  | tooSmall
  | badSignature (word : Nat)
  | badVersion (word : Nat)
  | noFile
deriving DecidableEq, Repr

namespace Index

/-- What is staged of a path. -/
def get? (i : Index) (path : String) : Option Item := i.find? fun e => e.path == path

/-- Lists a path. -/
def put (item : Item) : Index → Index
  | [] => [item]
  | e :: rest =>
    if item.path < e.path then item :: e :: rest
    else if item.path = e.path then item :: rest
    else e :: put item rest

/-- Strikes a path from the list. -/
def erase (path : String) (i : Index) : Index := i.filter fun e => e.path != path

/-- The index that lists a snapshot. -/
def ofSnapshot (s : Snapshot) : Index := s.map fun e => { path := e.1, blob := e.2 }

/-- The files that are staged. -/
def files (i : Index) : Snapshot :=
  (i.filter fun e => !e.intended && !e.unmerged).map fun e => (e.path, e.blob)

/-- All paths that are listed. -/
def paths (i : Index) : List String := i.map (·.path)

/-- Stages a file, or strikes it. -/
def stage (path : String) (blob : Option Blob) (i : Index) : Index :=
  match blob with
  | some b => i.put { path, blob := b }
  | none => i.erase path

/-! ## The file of an index -/

/-- The word for the kind of an item. -/
def kindWord (e : Item) : String :=
  if e.unmerged then "unmerged"
  else if e.intended then "intended"
  else if e.blob.executable then "program" else "plain"

/-- An item in the file of an index. -/
def writeItem (e : Item) : Bytes :=
  let path := Bytes.ofText e.path
  Bytes.ofText (kindWord e ++ s!" {path.length} {e.blob.content.length}\n") ++ path ++ e.blob.content

/-- The file of an index. -/
def toBytes (i : Index) : Bytes :=
  Bytes.ofText "DIRC" ++ [0, 0, 0, 2] ++ Bytes.ofText s!"{i.length}\n" ++ i.flatMap writeItem
    ++ List.replicate 32 0

/-- Reads items. -/
def readItems : Nat → Bytes → Option Index
  | 0, _ => some []
  | n + 1, b => do
    let line := b.takeWhile (· != 10)
    let rest := b.drop (line.length + 1)
    match (Bytes.lossyText line).splitOn " " with
    | [kind, pathSize, size] =>
      let pathSize ← pathSize.toNat?
      let size ← size.toNat?
      let path := Bytes.lossyText (rest.take pathSize)
      let content := (rest.drop pathSize).take size
      let more ← readItems n (rest.drop (pathSize + size))
      let item : Item :=
        { path, blob := ⟨content, kind == "program"⟩, intended := kind == "intended"
          unmerged := kind == "unmerged" }
      return item :: more
    | _ => none

/-- A number of four bytes. -/
def word (b : Bytes) : Nat := (b.take 4).foldl (fun n x => n * 256 + x.toNat) 0

/-- Reads the file of an index. -/
def ofBytes (b : Bytes) : Except IndexFault Index :=
  if b.length < 32 then .error .tooSmall
  else if b.take 4 != Bytes.ofText "DIRC" then .error (.badSignature (word b))
  else
    let line := (b.drop 8).takeWhile (· != 10)
    let read := (Bytes.lossyText line).toNat?.bind fun n => readItems n (b.drop (9 + line.length))
    match read with
    | some i => .ok i
    | none => .error (.badVersion (word (b.drop 4)))

end Index

/-! ## The index of a repository -/

namespace Site

variable (s : Site)

/-- The path of the index, and how processes tell it. -/
def indexPath (m : Machine) : String × String :=
  match m.indexFile with
  | some name => (Path.join (pathOf s.root) name, name)
  | none => (s.path "index", ".git/index")

/-- Reads the index. -/
def readIndex (m : Machine) : Except IndexFault Index :=
  match m.disk.readAt (s.indexPath m).1 with
  | .ok content => Index.ofBytes content
  | .error .isDirectory => .error .noFile
  | .error _ => .ok []

/-- Eight digits of a number. -/
def hexWord (n : Nat) : String :=
  let digits := Nat.toDigits 16 n
  String.ofList (List.replicate (8 - digits.length) '0' ++ digits)

/-- The index, for a process that cannot do without. -/
def index : GitAct Index := do
  let m ← get
  match s.readIndex m with
  | .ok i => return i
  | .error .tooSmall => GitAct.die ((s.indexPath m).2 ++ ": index file smaller than expected")
  | .error .noFile => GitAct.die ((s.indexPath m).2 ++ ": index file open failed: Is a directory")
  | .error (.badSignature n) =>
    throw (.failure 128 ("error: bad signature 0x" ++ hexWord n ++ "\nfatal: index file corrupt\n"))
  | .error (.badVersion n) =>
    throw (.failure 128 (s!"error: bad index version {n}\n" ++ "fatal: index file corrupt\n"))

/-- Whether another process seems to be writing the index. -/
def isLocked (m : Machine) : Bool := (m.disk.at? ((s.indexPath m).1 ++ ".lock")).toOption.isSome

/-- Refuses to go on while another process seems to be writing the index. -/
def lockIndex : GitAct Unit := do
  let m ← get
  if s.isLocked m then
    GitAct.die ("Unable to create '" ++ (s.indexPath m).1 ++ ".lock': File exists.\n\n"
      ++ "Another git process seems to be running in this repository, e.g.\n"
      ++ "an editor opened by 'git commit'. Please make sure all processes\n"
      ++ "are terminated then try again. If it still fails, a git process\n"
      ++ "may have crashed in this repository earlier:\n"
      ++ "remove the file manually to continue.")

/-- Writes the index. -/
def writeIndex (i : Index) : GitAct Unit :=
  modify fun m => m.write (s.indexPath m).1 i.toBytes false

/-! ## The working tree -/

/-- The folder of the working tree. -/
def tree (m : Machine) : Folder := (m.disk.folderAt? s.root).getD []

/-- Changes the working tree. -/
def changeTree (change : Folder → Folder) : GitAct Unit :=
  modify fun m => m.edit (·.changeAt (fun f => .ok (change f)) s.root)

/-- Puts files into the working tree or takes them away. -/
def checkOut (changes : List (String × Option Blob)) : GitAct Unit :=
  s.changeTree fun tree =>
    let gone := changes.filter fun c => c.2.isNone
    let there := changes.filter fun c => c.2.isSome
    (gone ++ there).foldl (fun t c => setFile c.1 c.2 t) tree

/-- The file at a path of the working tree. -/
def fileAt? (m : Machine) (path : String) : Option Blob := Sandbox.fileAt? (s.tree m) path

end Site

end LintGate.Sandbox
