/-
A whole sandbox.

Here the programs of the machine come together: processes are started by name, scripts
run by their interpreters, and tools by the machine itself. A sandbox has a working
tree, a home, and a directory of programs of its own in front of the machine's.
-/
import LintGate.Registry.Scripts
import LintGate.Sandbox.Git.Command
import LintGate.Sandbox.Shell.Run
import LintGate.Sandbox.Tools.Basic

set_option autoImplicit false

namespace LintGate.Sandbox

/-! ## Processes -/

/-- Whether a program of the machine is a shell. -/
def isShell (tool : String) : Bool := ["sh", "dash", "bash"].contains tool

/-- What a shell is to run. -/
structure Script where
  options : List Char
  name : String
  args : List String
  text : String

/-- The script of a shell that is called with arguments. -/
def scriptOf (disk : Folder) (call : Call) : Except Result Script :=
  let shell := call.words.headD "sh"
  let flags := call.args.takeWhile fun a => a.startsWith "-" && a != "-" && a != "--"
  let options := flags.flatMap fun a => a.toList.drop 1
  match call.args.drop flags.length, options.contains 'c' with
  | [], true => .error (.failure 2 (shell ++ ": 0: -c requires an argument\n"))
  | text :: rest, true => .ok ⟨options, rest.headD shell, rest.drop 1, text⟩
  | [], false => .ok ⟨options, shell, [], Bytes.lossyText call.input⟩
  | path :: rest, false =>
    match disk.readAt (call.resolve path) with
    | .ok content => .ok ⟨options, path, rest, Bytes.lossyText content⟩
    | .error _ => .error (.failure 2 (shell ++ ": 0: cannot open " ++ path ++ ": No such file\n"))

/-- Runs the program that is named among arguments, after settings of variables. -/
def runNamed (execute : Call → StateM Machine (Except Fault Result)) (call : Call) : StateM Machine Result := do
  let words := call.args.dropWhile fun w => w.contains '='
  let settings := (call.args.takeWhile fun w => w.contains '=').map fun w =>
    (String.ofList (w.toList.takeWhile (· != '=')), String.ofList ((w.toList.dropWhile (· != '=')).drop 1))
  let environment := call.environment.filter (fun v => settings.all fun w => w.1 != v.1) ++ settings
  match words with
  | [] =>
    let path := ("PATH", ":".intercalate (← get).searched)
    return .text (String.join ((path :: environment).map fun v => v.1 ++ "=" ++ v.2 ++ "\n"))
  | name :: _ =>
    match ← execute { call with words, environment } with
    | .ok r => return r
    | .error .notFound => return .failure 127 ("env: '" ++ name ++ "': No such file or directory\n")
    | .error _ => return .failure 126 ("env: '" ++ name ++ "': Permission denied\n")

/-- Runs a program of the machine. -/
def runTool (execute : Call → StateM Machine (Except Fault Result)) (tool : String) (call : Call) :
    StateM Machine Result := do
  if isShell tool then
    match scriptOf (← get).disk call with
    | .error r => return r
    | .ok script =>
      let input := if call.args.isEmpty then [] else call.input
      Shell.runScript execute { call with input } script.options script.name script.args script.text
  else if tool == "env" then runNamed execute call
  else if tool == "git" then runGit call
  else Tools.run tool call

/-- The depth to which processes start others. -/
def depth : Nat := 40

/-- Runs a process. The number bounds how deep processes start others. -/
def start : Nat → Call → StateM Machine (Except Fault Result)
  | 0, _ => return .error .denied
  | n + 1, call => do
    let m ← get
    match Programs.findImage m.disk call.cwd m.searched (call.words.headD "") with
    | .error e => return .error e
    | .ok (.builtin tool) => return .ok (← runTool (start n) tool call)
    | .ok (.script interpreter argument path) =>
      start n { call with words := interpreter :: argument.toList ++ path :: call.args }

/-- Runs a process. -/
def execute (call : Call) : StateM Machine (Except Fault Result) := start depth call

/-! ## The machine -/

/-- The working tree of a sandbox. -/
def root : String := "/sandbox/root"

/-- The home directory of a sandbox. -/
def home : String := "/sandbox/home"

/-- Where a sandbox keeps programs of its own. -/
def programs : String := "/sandbox/bin"

/-- The directory in which a sandbox keeps the reporter scripts. -/
def reporters : String := "/sandbox/reporters"

/-- The programs of a machine, under each of the directories that hold them. -/
def tools : Folder :=
  (Tools.names ++ ["sh", "dash", "bash", "git", "env"]).map fun name => (name, Programs.builtin name)

/-- A machine with an empty working tree. -/
def fresh : Machine where
  disk :=
    [("bin", .folder tools), ("usr", .folder [("bin", .folder tools)]),
      ("dev", .folder [("null", .file [] false)]),
      ("sandbox",
        .folder [("root", .folder []), ("home", .folder []), ("bin", .folder []), ("reporters", .folder [])]),
      ("tmp", .folder [])]
  searched := [programs, "/usr/bin", "/bin"]

/-- The variables that every process of a sandbox gets to see. -/
def standardEnvironment : List (String × String) := [("LC_ALL", "C"), ("NO_COLOR", "1"), ("HOME", home)]

/-! ## Linters -/

/-- How the end of a process looks to the one that started it with a limit of time. -/
def endingOf (timeout : Nat) (r : Result) : Ending :=
  if 0 < r.time && timeout * 1000 ≤ r.time then .timedOut
  else
    match r.status with
    | .exit code => .exited code r.out r.err
    | .signal _ => .killed r.err

/-- Runs a program in a directory. Words with a NUL cannot be handed to a process. -/
def runIn (dir program : String) (args : List String) (timeout : Nat) : StateM Machine Ending := do
  if (program :: args).any fun w => w.toList.contains '\x00' then
    return .notStarted "nul byte found in provided data"
  else
    match ← execute { words := program :: args, cwd := dir, environment := standardEnvironment } with
    | .error .notFound => return .notFound
    | .error e => return .notStarted e.text
    | .ok r => return endingOf timeout r

/-- A machine as the system of linters that run in one of its directories. -/
def system (dir : String) : System Machine where
  run := runIn dir
  isFile path m := m.disk.isFileAt (Path.join dir path)
  makeDirectory := return .ok reporters
  writeFile path text := do
    modify fun m => m.write path (Bytes.ofText text) false
    return .ok ()
  removeDirectory path := modify fun m => m.edit (Tools.removeAny (Path.steps path))

/-- The world of linters that run in a directory of a machine. A machine keeps nothing beside its disk, so
the reporter scripts are written whenever a linter asks for one, to the same place. -/
def host (dir : String) : Host Machine where
  run := (system dir).run
  isFile := (system dir).isFile
  reporterDirectory := (system dir).newScripts

/-- Whether a machine has a program of a name, seen from a directory. -/
def hasProgram (m : Machine) (dir name : String) : Bool := Programs.isFound m.disk dir m.searched name

end LintGate.Sandbox
