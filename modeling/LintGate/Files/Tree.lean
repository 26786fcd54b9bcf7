/-
Trees of folders, and paths in them.

A path is followed from folder to folder. Two dots lead back to the folder one came
from, so every part of a path must exist; only folders can be entered, and a path
that ends like a folder's must lead to one.
-/
import LintGate.Files.Folder
import LintGate.Files.Path

set_option autoImplicit false

namespace LintGate

namespace Folder

/-! ## Looking up -/

/-- Follows steps from an entry. The folders that were entered come along, the last one first. -/
def follow : List Folder → Entry → List String → Except Fault Entry
  | _, here, [] => .ok here
  | _, .file .., _ :: _ => .error .notDirectory
  | up, .folder f, step :: rest =>
    if step = ".." then
      match up with
      | [] => follow [] (.folder f) rest
      | parent :: up => follow up (.folder parent) rest
    else
      match f.lookup step with
      | none => .error .notFound
      | some entry => follow (f :: up) entry rest

/-- What a path leads to. The root of all paths is the folder itself. -/
def at? (root : Folder) (path : String) : Except Fault Entry :=
  if path.isEmpty then .error .notFound
  else
    match follow [] (.folder root) (Path.steps path) with
    | .ok (.file content executable) =>
      if Path.isDirectoryLike path then .error .notDirectory else .ok (.file content executable)
    | answer => answer

/-- Whether a path leads to a file. -/
def isFileAt (root : Folder) (path : String) : Bool :=
  match root.at? path with
  | .ok (.file ..) => true
  | _ => false

/-- The bytes of the file at a path. -/
def readAt (root : Folder) (path : String) : Except Fault Bytes := do
  match ← root.at? path with
  | .file content _ => .ok content
  | .folder _ => .error .isDirectory

/-- The folder at the end of steps, if they lead to one. -/
def folderAt? : Folder → List String → Option Folder
  | f, [] => some f
  | f, step :: rest =>
    match f.lookup step with
    | some (.folder g) => folderAt? g rest
    | _ => none

/-! ## Changing -/

/-- Changes the folder at the end of steps that lead down. Folders that are missing are made. -/
def changeAt (change : Folder → Except Fault Folder) : List String → Folder → Except Fault Folder
  | [], f => change f
  | step :: rest, f =>
    match f.lookup step with
    | some (.folder g) => do return f.put step (.folder (← changeAt change rest g))
    | some (.file ..) => .error .notDirectory
    | none => do return f.put step (.folder (← changeAt change rest []))

/-- Puts an entry at the end of steps that lead down. -/
def putAt (steps : List String) (entry : Entry) (f : Folder) : Except Fault Folder :=
  match steps.getLast? with
  | none => .error .isDirectory
  | some name => changeAt (fun g => .ok (g.put name entry)) steps.dropLast f

/-- Removes the file at the end of steps that lead down. -/
def removeAt (steps : List String) (f : Folder) : Except Fault Folder :=
  match steps.getLast? with
  | none => .error .isDirectory
  | some name =>
    if (folderAt? f steps.dropLast).isSome then changeAt (·.remove name) steps.dropLast f
    else .error .notFound

end Folder

/-- The directory at the end of steps below a folder of a world. -/
def Place.below {σ : Type} (root : σ → Folder) (setRoot : Folder → σ → σ) (steps : List String) :
    Place σ where
  look s := (root s).folderAt? steps
  change f s :=
    match (root s).changeAt (fun _ => .ok f) steps with
    | .ok g => setRoot g s
    | .error _ => s

end LintGate
