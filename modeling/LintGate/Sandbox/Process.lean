/-
Processes of a sandbox.

A sandbox is a machine in memory: a disk, what its version control has stored, and the
environment of its processes. A process is called with arguments and an input; it may
change the machine, and it leaves its output, its status and the time that it took.
-/
import LintGate.Programs

set_option autoImplicit false

namespace LintGate.Sandbox

/-- A stored file: its bytes, and whether it may be executed. -/
structure Blob where
  content : Bytes
  executable : Bool := false
deriving DecidableEq, Repr

/-- Files by path, in the order of their paths. -/
abbrev Snapshot := List (String × Blob)

/-- A commit. -/
structure Commit where
  id : String
  parents : List String
  subject : String
  files : Snapshot
deriving Repr

/-- A machine in memory. -/
structure Machine where
  disk : Folder
  /-- The commits that were ever made, the newest first. -/
  commits : List Commit := []
  /-- The directories in which processes look for programs. -/
  searched : List String := []
  /-- The index that the version control is told to use. -/
  indexFile : Option String := none

/-- Changes the disk of a machine. A change that fails changes nothing. -/
def Machine.edit (m : Machine) (change : Folder → Except Fault Folder) : Machine :=
  match change m.disk with
  | .ok disk => { m with disk }
  | .error _ => m

/-- Puts a file into a machine. -/
def Machine.write (m : Machine) (path : String) (content : Bytes) (executable : Bool) : Machine :=
  m.edit (·.putAt (Path.steps path) (.file content executable))

/-- How a process ends. -/
inductive Status where
  | exit (code : Nat)
  | signal (number : Nat)
deriving DecidableEq, Repr

/-- What a process leaves. -/
structure Result where
  status : Status := .exit 0
  out : Bytes := []
  err : Bytes := []
  /-- The milliseconds that it took. -/
  time : Nat := 0

/-- How a process is called. -/
structure Call where
  /-- The words of the call; the first is the name of the program. -/
  words : List String
  cwd : String
  input : Bytes := []
  /-- Variables of the environment that not every process has. -/
  environment : List (String × String) := []

namespace Call

/-- The arguments of a call. -/
def args (c : Call) : List String := c.words.drop 1

/-- A path as the process means it. -/
def resolve (c : Call) (path : String) : String := if path.isEmpty then "" else Path.join c.cwd path

end Call

/-- A process that only writes. -/
def Result.text (s : String) : Result := { out := Bytes.ofText s }

/-- A process that fails. -/
def Result.failure (code : Nat) (message : String) : Result :=
  { status := .exit code, err := Bytes.ofText message }

end LintGate.Sandbox
