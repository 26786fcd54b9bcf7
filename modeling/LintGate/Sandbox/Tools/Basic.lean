/-
The programs that are part of a sandbox.

Each tool is a function of the call and the disk; the few that change files answer
the changed disk.
-/
import LintGate.Sandbox.Condition
import LintGate.Sandbox.Format
import LintGate.Sandbox.Tools.Awk
import LintGate.Sandbox.Tools.Lines

set_option autoImplicit false

namespace LintGate.Sandbox.Tools

/-- Prints files one after the other, with numbered lines if it is asked. -/
def cat (disk : Folder) (call : Call) : Result :=
  let flags := (call.args.filter isOption).flatMap letters
  let (found, errors) := sources disk call "cat" (call.args.filter fun a => !isOption a)
  let all := (found.map (·.2)).flatten
  let numbered := ((byteLines all).zipIdx 1).flatMap fun (l, (i : Nat)) =>
    Bytes.ofText (padLeft 6 (toString i) ++ "\t") ++ l
  { status := .exit (if errors.isEmpty then 0 else 1), out := if flags.contains 'n' then numbered else all,
    err := Bytes.ofText (String.join errors) }

/-- Prints the lines of files from the last to the first. -/
def tac (disk : Folder) (call : Call) : Result :=
  let (found, errors) := sources disk call "tac" (call.args.filter fun a => !isOption a)
  { status := .exit (if errors.isEmpty then 0 else 1),
    out := (found.map fun f => (byteLines f.2).reverse.flatten).flatten,
    err := Bytes.ofText (String.join errors) }

/-- The last part of a path, without an ending. -/
def basename (call : Call) : Result :=
  match call.args with
  | [] => .failure 1 "basename: missing operand\n"
  | path :: rest =>
    let parts := ((Path.splitBars path.toList).map String.ofList).filter (· != "")
    let name := parts.getLastD (if path.isEmpty then "" else "/")
    let ending := rest.headD ""
    let name := if name.endsWith ending && name != ending then (name.dropEnd ending.length).toString else name
    .text (name ++ "\n")

/-- A path without its last part. -/
def dirname (call : Call) : Result :=
  match call.args with
  | [] => .failure 1 "dirname: missing operand\n"
  | path :: _ =>
    let parts := ((Path.splitBars path.toList).map String.ofList).filter (· != "")
    let front := "/".intercalate parts.dropLast
    let shown := if Path.isAbsolute path then "/" ++ front else if front.isEmpty then "." else front
    .text (shown ++ "\n")

/-- The milliseconds of a decimal number of seconds. -/
def milliseconds (s : String) : Nat :=
  match s.splitOn "." with
  | [whole] => (whole.toNat?.getD 0) * 1000
  | whole :: part :: _ =>
    (whole.toNat?.getD 0) * 1000 + ((part ++ "000").toList.take 3).foldl (fun n c => n * 10 + (c.toNat - 48)) 0
  | [] => 0

/-- Prints fields of records. -/
def awk (disk : Folder) (call : Call) : Result :=
  let rec read : List String → List (String × String) → List (String × String) × List String
    | "-F" :: separator :: rest, set => read rest (set ++ [("FS", separator)])
    | "-v" :: value :: rest, set =>
      match value.splitOn "=" with
      | name :: v => read rest (set ++ [(name, "=".intercalate v)])
      | [] => read rest set
    | "--" :: rest, set => (set, rest)
    | w :: rest, set =>
      if w.startsWith "-F" && w != "-F" then read rest (set ++ [("FS", (w.drop 2).toString)]) else (set, w :: rest)
    | [], set => (set, [])
  let (set, rest) := read call.args []
  match rest with
  | [] => .failure 2 "usage: awk [-F fs][-v var=value][prog | -f progfile][file ...]\n"
  | program :: files =>
    let (found, errors) := sources disk call "awk" files
    let named := found.map fun (name, b) => (if files.isEmpty then "" else name, linesOfBytes b)
    let r := Awk.run program set named
    if errors.isEmpty then r else { r with status := .exit 2, err := Bytes.ofText (String.join errors) }

/-- A line of words, with options in front. -/
def echo (args : List String) : Result :=
  let flags := args.takeWhile fun a => a.length > 1 && a.startsWith "-" && (letters a).all fun c => "neE".contains c
  let given := flags.flatMap letters
  let line := " ".intercalate (args.drop flags.length)
  let shown := if given.contains 'e' then Format.unescape (line.length + 1) line.toList else Bytes.ofText line
  { out := shown ++ if given.contains 'n' then [] else [10] }

/-- The names in a directory. -/
def ls (disk : Folder) (call : Call) : Result :=
  let all := (call.args.filter isOption).any fun o => (letters o).contains 'a'
  let targets := call.args.filter fun a => !isOption a
  let targets := if targets.isEmpty then ["."] else targets
  let shown := targets.map fun t =>
    match disk.at? (call.resolve t) with
    | .ok (.folder f) =>
      let names := (Folder.names f).filter fun (n : String) => all || !n.startsWith "."
      (unlines ((if all then [".", ".."] else []) ++ names.mergeSort fun a b => !(b < a)), "")
    | .ok (.file ..) => (t ++ "\n", "")
    | .error _ => ("", "ls: cannot access '" ++ t ++ "': No such file or directory\n")
  let errors := String.join (shown.map (·.2))
  { status := .exit (if errors.isEmpty then 0 else 2), out := Bytes.ofText (String.join (shown.map (·.1))),
    err := Bytes.ofText errors }

/-- Characters of a set such as tools write it, ranges spelled out. -/
def spellSet : List Char → List Char
  | lo :: '-' :: hi :: rest =>
    ((List.range (hi.toNat + 1 - lo.toNat)).map fun i => Char.ofNat (lo.toNat + i)) ++ spellSet rest
  | '\\' :: 'n' :: rest => '\n' :: spellSet rest
  | '\\' :: 't' :: rest => '\t' :: spellSet rest
  | '\\' :: 'r' :: rest => '\r' :: spellSet rest
  | c :: rest => c :: spellSet rest
  | [] => []

/-- Replaces or deletes characters. -/
def tr (call : Call) : Result :=
  let input := (Bytes.lossyText call.input).toList
  match call.args with
  | ["-d", set] => .text (String.ofList (input.filter fun c => !(spellSet set.toList).contains c))
  | [set, put] =>
    let pairs := (spellSet set.toList).zip
      (let p := spellSet put.toList; p ++ List.replicate set.length (p.getLastD ' '))
    .text (String.ofList (input.map fun c => (pairs.lookup c).getD c))
  | _ => .failure 1 "tr: missing operand\n"

/-- Numbers in a row. -/
def seq (call : Call) : Result :=
  let n (s : String) : Int := s.toInt?.getD 0
  let (lo, step, hi) :=
    match call.args with
    | [a, b, c] => (n a, n b, n c)
    | [a, b] => (n a, 1, n b)
    | [a] => (1, 1, n a)
    | _ => (1, 1, 0)
  let count := if 0 < step then ((hi - lo) / step + 1).toNat else 0
  .text (unlines ((List.range count).map fun (i : Nat) => s!"{lo + step * i}"))

/-! ## Tools that change files -/

/-- Applies a change to each target, up to the end. Failures are told. -/
def changeEach (tool : String) (change : String → Folder → Except Fault Folder) :
    List String → Folder → List String → Folder × List String
  | [], disk, errors => (disk, errors)
  | t :: rest, disk, errors =>
    match change t disk with
    | .ok disk => changeEach tool change rest disk errors
    | .error e =>
      let reason := (e.text.splitOn " (os").headD ""
      changeEach tool change rest disk (errors ++ [tool ++ ": cannot change '" ++ t ++ "': " ++ reason ++ "\n"])

/-- Removes what is at the end of steps, whatever it is. -/
def removeAny (steps : List String) (disk : Folder) : Except Fault Folder :=
  match steps.getLast? with
  | none => .error .isDirectory
  | some name =>
    match disk.at? ("/" ++ "/".intercalate steps) with
    | .error e => .error e
    | .ok _ => disk.changeAt (fun f => .ok (f.erase name)) steps.dropLast

/-- Changes files as a tool is told to. -/
def changeFiles (tool : String) (call : Call) (disk : Folder) : Result × Folder :=
  let flags := (call.args.filter isOption).flatMap letters
  let targets := call.args.filter fun a => !isOption a
  let steps (t : String) : List String := Path.steps (call.resolve t)
  let change : String → Folder → Except Fault Folder := fun t d =>
    match tool with
    | "touch" => if (d.at? (call.resolve t)).toOption.isSome then .ok d else d.putAt (steps t) (.file [] false)
    | "mkdir" =>
        if (d.at? (call.resolve t)).toOption.isSome then (if flags.contains 'p' then .ok d else .error .taken)
        else d.putAt (steps t) (.folder [])
    | "rm" =>
      match d.at? (call.resolve t) with
      | .error e => if flags.contains 'f' then .ok d else .error e
      | .ok (.file ..) => d.removeAt (steps t)
      | .ok (.folder _) => if flags.contains 'r' then removeAny (steps t) d else .error .isDirectory
    | _ => .ok d
  let (disk, errors) := changeEach tool change targets disk []
  ({ status := .exit (if errors.isEmpty then 0 else 1), err := Bytes.ofText (String.join errors) }, disk)

/-- Makes files executable or not. -/
def chmod (call : Call) (disk : Folder) : Result × Folder :=
  match call.args with
  | mode :: targets =>
    let executable := mode.contains '+' || mode.toList.any fun c => c == '7' || c == '5'
    let change : String → Folder → Except Fault Folder := fun t d => do
      match ← d.at? (call.resolve t) with
      | .file content _ => d.putAt (Path.steps (call.resolve t)) (.file content executable)
      | .folder _ => .ok d
    let (disk, errors) := changeEach "chmod" change targets disk []
    ({ status := .exit (if errors.isEmpty then 0 else 1), err := Bytes.ofText (String.join errors) }, disk)
  | [] => (.failure 1 "chmod: missing operand\n", disk)

/-- Prints the input, and stores it in files. -/
def tee (call : Call) (disk : Folder) : Result × Folder :=
  let targets := call.args.filter fun a => !isOption a
  let appends := call.args.contains "-a"
  let change (t : String) (d : Folder) : Except Fault Folder :=
    let before := if appends then (d.readAt (call.resolve t)).toOption.getD [] else []
    d.putAt (Path.steps (call.resolve t)) (.file (before ++ call.input) false)
  let (disk, errors) := changeEach "tee" change targets disk []
  ({ status := .exit (if errors.isEmpty then 0 else 1), out := call.input,
     err := Bytes.ofText (String.join errors) }, disk)

/-- Copies or moves a file. -/
def transfer (move : Bool) (call : Call) (disk : Folder) : Result × Folder :=
  match call.args.filter fun a => !isOption a with
  | [source, target] =>
    let changed : Except Fault Folder := do
      let entry ← disk.at? (call.resolve source)
      let target :=
        match disk.at? (call.resolve target) with
        | .ok (.folder _) => Path.join target ((Path.fileName? source).getD "")
        | _ => target
      let disk ← disk.putAt (Path.steps (call.resolve target)) entry
      if move then removeAny (Path.steps (call.resolve source)) disk else return disk
    match changed with
    | .ok disk => ({}, disk)
    | .error _ => (.failure 1 ("cannot stat '" ++ source ++ "': No such file or directory\n"), disk)
  | _ => (.failure 1 "missing file operand\n", disk)

/-! ## All tools -/

/-- The names of the tools. -/
def names : List String :=
  ["cat", "head", "tail", "basename", "dirname", "sleep", "true", "false", "pwd", "wc", "grep", "sed", "awk",
    "sort", "uniq", "tr", "ls", "seq", "echo", "printf", "test", "[", "cut", "tac", "tee",
    "touch", "mkdir", "rm", "chmod", "cp", "mv"]

/-- Runs a tool. -/
def run (tool : String) (call : Call) : StateM Machine Result := fun m =>
  let reads (r : Result) : Result × Machine := (r, m)
  let changes (r : Result × Folder) : Result × Machine := (r.1, { m with disk := r.2 })
  match tool with
  | "cat" => reads (cat m.disk call)
  | "head" => reads (portion front "head" m.disk call)
  | "tail" => reads (portion back "tail" m.disk call)
  | "basename" => reads (basename call)
  | "dirname" => reads (dirname call)
  | "sleep" => reads { time := call.args.foldl (fun n a => n + milliseconds a) 0 }
  | "false" => reads { status := .exit 1 }
  | "pwd" => reads (.text (call.cwd ++ "\n"))
  | "wc" => reads (wc m.disk call)
  | "grep" => reads (grep m.disk call)
  | "sed" => reads (sed m.disk call)
  | "awk" => reads (awk m.disk call)
  | "sort" => reads (sort m.disk call)
  | "uniq" => reads (uniq m.disk call)
  | "tr" => reads (tr call)
  | "ls" => reads (ls m.disk call)
  | "seq" => reads (seq call)
  | "echo" => reads (echo call.args)
  | "printf" => reads (Format.printfTool call.args)
  | "test" => reads (Condition.test m.disk call.resolve call.args)
  | "[" => reads (Condition.test m.disk call.resolve call.args.dropLast)
  | "cut" => reads (cut m.disk call)
  | "tac" => reads (tac m.disk call)
  | "tee" => changes (tee call m.disk)
  | "touch" => changes (changeFiles "touch" call m.disk)
  | "mkdir" => changes (changeFiles "mkdir" call m.disk)
  | "rm" => changes (changeFiles "rm" call m.disk)
  | "chmod" => changes (chmod call m.disk)
  | "cp" => changes (transfer false call m.disk)
  | "mv" => changes (transfer true call m.disk)
  | _ => reads {}

end LintGate.Sandbox.Tools
