/-
Files and folders.

A folder lists what it holds by name, in the order in which the names came in. A
file has its bytes and may be executable. Operations fail for the reasons for which
a file system refuses them, and a failed operation leaves everything as it was.
-/
import LintGate.Text.Bytes

set_option autoImplicit false

namespace LintGate

/-- Why a file operation is refused. -/
inductive Fault where
  | notFound
  | execFormat
  | denied
  | taken
  | notDirectory
  | isDirectory
  | notText
deriving DecidableEq, Repr

/-- The text of a refusal. -/
def Fault.text : Fault → String
  | notFound => "No such file or directory (os error 2)"
  | execFormat => "Exec format error (os error 8)"
  | denied => "Permission denied (os error 13)"
  | taken => "File exists (os error 17)"
  | notDirectory => "Not a directory (os error 20)"
  | isDirectory => "Is a directory (os error 21)"
  | notText => "stream did not contain valid UTF-8"

/-- What a name stands for. -/
inductive Entry where
  | file (content : Bytes) (executable : Bool)
  | folder (entries : List (String × Entry))

/-- What a folder holds. -/
abbrev Folder := List (String × Entry)

namespace Folder

/-- What a name stands for, if it is there. -/
def get? (f : Folder) (name : String) : Option Entry := f.lookup name

/-- The names in a folder. -/
def names (f : Folder) : List String := f.map (·.1)

/-- Lets a name stand for something. A name that is there keeps its place. -/
def put (name : String) (entry : Entry) : Folder → Folder
  | [] => [(name, entry)]
  | (n, e) :: rest => if n = name then (n, entry) :: rest else (n, e) :: put name entry rest

/-- Takes a name away. -/
def erase (name : String) (f : Folder) : Folder := f.filter fun e => e.1 != name

/-- The bytes of a file. -/
def read (f : Folder) (name : String) : Except Fault Bytes :=
  match f.get? name with
  | some (.file content _) => .ok content
  | some (.folder _) => .error .isDirectory
  | none => .error .notFound

/-- Writes a file, which keeps being executable if it was. -/
def write (f : Folder) (name : String) (content : Bytes) : Except Fault Folder :=
  match f.get? name with
  | some (.file _ executable) => .ok (f.put name (.file content executable))
  | some (.folder _) => .error .isDirectory
  | none => .ok (f.put name (.file content false))

/-- Makes an empty file under a name that is free. -/
def create (f : Folder) (name : String) : Except Fault Folder :=
  match f.get? name with
  | some _ => .error .taken
  | none => .ok (f.put name (.file [] false))

/-- Removes a file. -/
def remove (f : Folder) (name : String) : Except Fault Folder :=
  match f.get? name with
  | some (.file ..) => .ok (f.erase name)
  | some (.folder _) => .error .isDirectory
  | none => .error .notFound

/-- Gives a file another name, in place of the file that had it. -/
def rename (f : Folder) (name target : String) : Except Fault Folder :=
  match f.get? name with
  | none => .error .notFound
  | some entry =>
    match f.get? target with
    | some (.folder _) => .error .isDirectory
    | _ => .ok ((f.erase name).put target entry)

/-- A name that no entry has: it is longer than every other. -/
def freeName (f : Folder) : String :=
  String.ofList (List.replicate ((f.names.map String.length).foldl Nat.max 0 + 1) '.')

/-- Performs an operation as one step of several. One that fails changes nothing. -/
def perform (operation : Folder → Except Fault Folder) : StateM Folder (Except Fault Unit) := fun f =>
  match operation f with
  | .error e => (.error e, f)
  | .ok f => (.ok (), f)

end Folder

/-- A directory of a world: what it holds, unless it is missing, and how it changes. -/
structure Place (σ : Type) where
  look : σ → Option Folder
  change : Folder → σ → σ

/-- What is put into a directory that exists is found there, and changing it twice is changing it
once. -/
structure Place.Lawful {σ : Type} (p : Place σ) : Prop where
  look_change : ∀ f s, (p.look s).isSome → p.look (p.change f s) = some f
  change_change : ∀ f g s, p.change f (p.change g s) = p.change f s

namespace Place

variable {σ : Type} (p : Place σ)

/-- Performs an operation on a directory. One that fails changes nothing. -/
def attempt (operation : Folder → Except Fault Folder) : StateM σ (Except Fault Unit) := fun s =>
  match p.look s with
  | none => (.error .notFound, s)
  | some f =>
    match operation f with
    | .error e => (.error e, s)
    | .ok f => (.ok (), p.change f s)

/-- Performs several operations on a directory. What they leave is there, also when one of them
failed. -/
def within (steps : StateM Folder (Except Fault Unit)) : StateM σ (Except Fault Unit) := fun s =>
  match p.look s with
  | none => (.error .notFound, s)
  | some f =>
    let (answer, f) := steps f
    (answer, p.change f s)

/-- Asks for the bytes of a file. -/
def read (name : String) : StateM σ (Except Fault Bytes) := fun s =>
  match p.look s with
  | none => (.error .notFound, s)
  | some f => (f.read name, s)

end Place

/-- Where a file is kept: a directory, the name in it, and the path by which it is told. -/
structure Spot (σ : Type) where
  place : Place σ
  name : String
  path : String

namespace Spot

variable {σ : Type} (spot : Spot σ)

/-- What is at a spot. -/
def look (s : σ) : Option Entry := (spot.place.look s).bind fun f => f.get? spot.name

/-- Makes an empty file at a spot that is free. -/
def create : StateM σ (Except Fault Unit) := spot.place.attempt fun f => f.create spot.name

/-- Removes the file at a spot. -/
def remove : StateM σ (Except Fault Unit) := spot.place.attempt fun f => f.remove spot.name

/-- Removes the file at a spot, if there is one. -/
def clear : StateM σ (Except Fault Unit) := do
  match ← spot.remove with
  | .error .notFound => return .ok ()
  | answer => return answer

end Spot

end LintGate
