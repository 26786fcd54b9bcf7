/-
The command line, carried out.

An invocation works on a copy in memory of the directory in which it is made, as if all
files there had just been staged in a new repository. What it has to say goes to the
console, and its log is stored in the directory.
-/
import LintGate.Calendar
import LintGate.Sandbox.Repository

set_option autoImplicit false

namespace LintGate.Main

/-! ## What is told about a command line that is not carried out -/

/-- The text of a refusal. -/
def refusalText : CommandLine.Refusal → String
  | .unknownArgument => "error: unexpected argument\n"
  | .repeated => "error: an argument cannot be used multiple times\n"
  | .invalidValue => "error: a value is missing\n"
  | .unwantedValue => "error: an argument takes no value\n"
  | .help => "Usage: difflint [--check] [--config PATH] [--mode MODE] [--reject] [-v|--verbose]\n"

/-! ## The copy of a directory -/

/-- The name of the directory that makes a directory a working tree. -/
def recordsName : String := ".git"

/-- Reads the entries of a directory. Links are not followed, and records of a version control are left
out. -/
partial def readEntries (entries : Array IO.FS.DirEntry) : IO Folder := do
  let mut found : Folder := []
  for e in entries do
    if e.fileName != recordsName then
      match (← e.path.symlinkMetadata).type with
      | .dir => found := Folder.put e.fileName (.folder (← readEntries (← e.path.readDir))) found
      | .file =>
        let content ← IO.FS.readBinFile e.path
        found := Folder.put e.fileName (.file content.toList false) found
      | _ => pure ()
  return found

/-- A machine with a file of the disk, if it is there. -/
def withFile (path : String) (m : Sandbox.Machine) : IO Sandbox.Machine := do
  try
    let content ← IO.FS.readBinFile path
    return m.write path content.toList false
  catch _ => return m

/-- Stages everything in a new repository. -/
def stageAll (cwd : String) : StateM Sandbox.Machine Unit := do
  for args in [["init"], ["add", "."]] do
    let _ ← Sandbox.execute ⟨"git" :: args, cwd, [], Sandbox.standardEnvironment⟩

/-- The names of the programs that the directories of the search path hold. -/
def programNames : IO (List String) := do
  let here ← IO.currentDir
  let mut names := []
  for dir in ((← IO.getEnv "PATH").getD "").splitOn ":" do
    try
      names := names ++ ((← (here / dir).readDir).map (·.fileName)).toList
    catch _ => pure ()
  return names

/-- The present time as text. -/
def now : IO String := do
  let (_, path) ← IO.FS.createTempFile
  let time := (← path.metadata).modified
  IO.FS.removeFile path
  return Calendar.stamp time.sec.toNat (time.nsec.toNat / 1000)

/-! ## The invocation -/

/-- Carries a command line out in the present directory. -/
def carryOut (line : CommandLine) : IO UInt32 := do
  let here ← IO.currentDir
  let cwd := here.toString
  let entries ← here.readDir
  let copy ← readEntries entries
  let m := Sandbox.fresh
  let m := m.edit (·.putAt (Path.steps cwd) (.folder copy))
  let user : UserPlaces := ⟨← IO.getEnv "HOME", ← IO.getEnv "XDG_CONFIG_HOME"⟩
  let named := line.config.map (Path.join cwd)
  let m ← (Config.candidates user cwd ++ named.toList).foldlM (fun m path => withFile path m) m
  let m := if entries.any fun e => e.fileName == recordsName then ((stageAll cwd).run m).2 else m
  let names ← programNames
  let world :=
    { Sandbox.surroundings cwd (← now) with
      user, isFound := fun m name => names.contains name || Sandbox.hasProgram m cwd name }
  let (code, s) := (Invocation.run world line).run ⟨m, []⟩
  let out ← IO.getStdout
  let err ← IO.getStderr
  out.putStr (Console.shown (← out.isTty) .out s.messages)
  err.putStr (Console.shown (← err.isTty) .err s.messages)
  let log := Path.join cwd "lintdiff.log"
  match s.world.disk.readAt log with
  | .ok content => IO.FS.writeBinFile log ⟨content.toArray⟩
  | .error _ => pure ()
  return code.toUInt32

end LintGate.Main

/-- Carries the command line out. -/
def main (args : List String) : IO UInt32 := do
  match LintGate.CommandLine.parse ("difflint" :: args) with
  | .ok line => LintGate.Main.carryOut line
  | .error .help =>
    IO.print (LintGate.Main.refusalText .help)
    return 0
  | .error refusal =>
    IO.eprint (LintGate.Main.refusalText refusal)
    return 2
