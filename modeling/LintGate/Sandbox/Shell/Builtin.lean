/-
Commands of the shell itself.
-/
import LintGate.Sandbox.Condition
import LintGate.Sandbox.Format
import LintGate.Sandbox.Shell.State

set_option autoImplicit false

namespace LintGate.Sandbox.Shell

/-- A line of words, with escapes read. -/
def echo (args : List String) : Result :=
  let (ending, args) :=
    match args with
    | "-n" :: rest => ("", rest)
    | other => ("\n", other)
  let line := " ".intercalate args
  { out := Format.unescape (line.length + 1) line.toList ++ Bytes.ofText ending }

/-- The number of a signal. -/
def signalNumber (s : String) : Option Nat :=
  match s with
  | "-KILL" => some 9
  | "-TERM" => some 15
  | "-INT" => some 2
  | "-HUP" => some 1
  | "-SEGV" => some 11
  | "-ABRT" => some 6
  | other => if other.startsWith "-" then (other.drop 1).toNat? else none

/-- Sends a signal. Only the shell's own process is known. -/
def kill (args : List String) : Run Flow := do
  let (signal, targets) :=
    match args with
    | "-s" :: name :: rest => ((signalNumber ("-" ++ name)).getD 15, rest)
    | a :: rest =>
      match signalNumber a with
      | some n => (n, rest)
      | none => (15, a :: rest)
    | [] => (15, [])
  if targets.contains processNumber then
    if signal = 0 then finish 0 else return .leave (.signal signal)
  else
    complain "kill: No such process"
    finish 1

/-- The status that an argument asks for. -/
def statusOf (args : List String) : Run Status := do
  match args with
  | a :: _ => return .exit ((a.toNat?.getD 2) % 256)
  | [] => return .exit (← get).last

/-- Changes the directory. -/
def changeDirectory (args : List String) : Run Flow := do
  let s ← get
  let target := args.headD "/"
  match s.machine.disk.at? (s.call.resolve target) with
  | .ok (.folder _) =>
    let steps := Path.steps (s.call.resolve target)
    let plain := steps.foldl (fun up p => if p == ".." then up.dropLast else up ++ [p]) []
    set { s with call := { s.call with cwd := "/" ++ "/".intercalate plain }, last := 0 }
    return .next
  | _ =>
    complain ("cd: can't cd to " ++ target)
    finish 2

/-- Reads a line into variables. The last one takes the rest of the line. -/
def readLine (names : List String) : Run Flow := do
  let s ← get
  let line := s.call.input.takeWhile (· != 10)
  let found := line.length < s.call.input.length
  set { s with call := { s.call with input := s.call.input.drop (line.length + 1) } }
  let isBlank (c : Char) : Bool := c == ' ' || c == '\t'
  let names := if names.isEmpty then ["REPLY"] else names
  let rec give : List String → List Char → Run Unit
    | [], _ => return ()
    | [n], rest => assign n (String.ofList (rest.reverse.dropWhile isBlank).reverse)
    | n :: ns, rest => do
      let word := rest.takeWhile fun c => !isBlank c
      assign n (String.ofList word)
      give ns ((rest.drop word.length).dropWhile isBlank)
  give names ((Bytes.lossyText line).toList.dropWhile isBlank)
  finish (if found then 0 else 1)

/-- The commands of the shell itself. -/
def own : List String :=
  [":", "true", "false", "echo", "printf", "test", "[", "exit", "return", "break", "continue", "cd", "pwd",
    "kill", "set", "shift", "read", "export", "readonly", "local", "unset", "umask", "trap", "wait", "type",
    "ulimit", "hash"]

/-- Where a program is found, as a script may ask. -/
def whereIs (name : String) : Run (Option String) := do
  let s ← get
  if own.contains name || (s.commands.lookup name).isSome then return some name
  else
    return (s.machine.searched.map fun dir => Path.join dir name).find? (Programs.isProgramAt s.machine.disk)

/-- Assigns what words like `name=value` ask for, and answers the names. -/
def assignWords (words : List String) : Run (List String) :=
  words.mapM fun w => do
    match w.splitOn "=" with
    | name :: v :: rest =>
      assign name ("=".intercalate (v :: rest))
      return name
    | _ => return w

/-- Runs a command of the shell itself. -/
def runOwn (name : String) (args : List String) : Run Flow := do
  let s ← get
  let simple (r : Result) : Run Flow := do
    absorb r
    return .next
  match name with
  | "false" => finish 1
  | "echo" => simple (echo args)
  | "printf" => simple (Format.printfShell (s.name ++ s!": {s.line}: ") args)
  | "test" => simple (Condition.test s.machine.disk s.call.resolve args)
  | "[" => simple (Condition.test s.machine.disk s.call.resolve args.dropLast)
  | "exit" => return .leave (← statusOf args)
  | "return" =>
    match ← statusOf args with
    | .exit code => return .goBack code
    | status => return .leave status
  | "break" => return .breakLoops ((args.head?.bind (·.toNat?)).getD 1)
  | "continue" => return .nextRound ((args.head?.bind (·.toNat?)).getD 1)
  | "cd" => changeDirectory args
  | "pwd" => simple (.text (s.call.cwd ++ "\n"))
  | "kill" => kill args
  | "shift" =>
    set { s with args := s.args.drop ((args.head?.bind (·.toNat?)).getD 1), last := 0 }
    return .next
  | "set" =>
    match args with
    | "--" :: rest => set { s with args := rest, last := 0 }
    | a :: rest =>
      if a.startsWith "-" then set { s with options := s.options ++ a.toList.drop 1, last := 0 }
      else if a.startsWith "+" then
        set { s with options := s.options.filter (fun c => !a.contains c), last := 0 }
      else set { s with args := a :: rest, last := 0 }
    | [] => pure ()
    return .next
  | "read" => readLine (args.filter fun a => !a.startsWith "-")
  | "export" =>
    (← assignWords args).forM exportName
    finish 0
  | "local" =>
    let _ ← assignWords args
    finish 0
  | "readonly" =>
    let _ ← assignWords args
    finish 0
  | "type" =>
    match ← whereIs (args.headD "") with
    | some place =>
      let name := args.headD ""
      simple (.text (name ++ " is " ++ (if place == name then "a shell builtin" else place) ++ "\n"))
    | none =>
      write false (Bytes.ofText (args.headD "" ++ ": not found\n"))
      finish 127
  | "trap" =>
    match args with
    | script :: signals =>
      if signals.any fun x => x == "EXIT" || x == "0" then
        modify fun s => { s with farewell := if script == "-" || script.isEmpty then none else some script }
    | [] => pure ()
    finish 0
  | "unset" =>
    modify fun s => { s with bindings := s.bindings.filter fun v => !args.contains v.1 }
    finish 0
  | _ => finish 0

end LintGate.Sandbox.Shell
