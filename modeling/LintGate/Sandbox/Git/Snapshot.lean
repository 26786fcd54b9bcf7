/-
Snapshots of working trees.

A snapshot lists files by path. Reading a working tree gives one, and a working tree is
changed into another snapshot path by path, so that files nobody speaks of stay. The
records of the version control itself are never part of a snapshot.
-/
import LintGate.Sandbox.Process

set_option autoImplicit false

namespace LintGate.Sandbox

namespace Snapshot

/-- The file at a path. -/
def get? (s : Snapshot) (path : String) : Option Blob := s.lookup path

/-- The paths of a snapshot. -/
def paths (s : Snapshot) : List String := s.map (·.1)

/-- Puts a file at its place in the order. -/
def put (path : String) (blob : Blob) : Snapshot → Snapshot
  | [] => [(path, blob)]
  | (p, b) :: rest =>
    if path < p then (path, blob) :: (p, b) :: rest
    else if path = p then (path, blob) :: rest
    else (p, b) :: put path blob rest

/-- Takes a file away. -/
def erase (path : String) (s : Snapshot) : Snapshot := s.filter fun e => e.1 != path

/-- Puts a file or takes it away. -/
def set (path : String) (blob : Option Blob) (s : Snapshot) : Snapshot :=
  match blob with
  | some b => s.put path b
  | none => s.erase path

/-- The paths of snapshots, each once and in order. -/
def allPaths (ss : List Snapshot) : List String :=
  (ss.flatMap paths).foldl (fun (all : Snapshot) p => all.put p ⟨[], false⟩) [] |>.paths

/-- The files below a directory, or the file of that name. -/
def below (dir : String) (s : Snapshot) : Snapshot :=
  s.filter fun e => dir.isEmpty || e.1 == dir || e.1.startsWith (dir ++ "/")

end Snapshot

/-- The name of the directory that holds the records of the version control. -/
def recordsName : String := ".git"

/-- The files in a folder, down to a depth, under the path of the folder. -/
def filesIn : Nat → String → Folder → Snapshot
  | 0, _, _ => []
  | n + 1, base, f =>
    f.flatMap fun (name, entry) =>
      let path := if base.isEmpty then name else base ++ "/" ++ name
      match entry with
      | .file content executable => [(path, ⟨content, executable⟩)]
      | .folder g => if name == recordsName then [] else filesIn n path g

/-- The files of a working tree. -/
def Snapshot.ofFolder (f : Folder) : Snapshot :=
  (filesIn 64 "" f).foldl (fun s e => s.put e.1 e.2) []

/-- Removes the folders on a way that hold nothing. The last step is the deepest. -/
def pruneEmpty : List String → Folder → Folder
  | [], f => f
  | name :: rest, f =>
    match f.lookup name with
    | some (.folder g) =>
      let g := pruneEmpty rest g
      if g.isEmpty then f.erase name else f.put name (.folder g)
    | _ => f

/-- Makes room for a file: a folder in its place goes if it is empty, and so does a file in place of one
of its folders. -/
def clearWay : List String → Folder → Folder
  | [], f => f
  | [name], f =>
    match f.lookup name with
    | some (.folder []) => f.erase name
    | _ => f
  | name :: rest, f =>
    match f.lookup name with
    | some (.file ..) => f.erase name
    | some (.folder g) => f.put name (.folder (clearWay rest g))
    | none => f

/-- Puts a file into a working tree or takes it away, with the folders that it needs or leaves empty. -/
def setFile (path : String) (blob : Option Blob) (tree : Folder) : Folder :=
  let steps := Path.steps path
  match blob with
  | some b => ((clearWay steps tree).putAt steps (.file b.content b.executable)).toOption.getD tree
  | none =>
    match tree.removeAt steps with
    | .ok tree => pruneEmpty steps.dropLast tree
    | .error _ => tree

/-- The file at a path of a working tree. -/
def fileAt? (tree : Folder) (path : String) : Option Blob :=
  match tree.at? ("/" ++ path) with
  | .ok (.file content executable) => some ⟨content, executable⟩
  | _ => none

end LintGate.Sandbox
