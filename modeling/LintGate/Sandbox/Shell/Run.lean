/-
Running shell scripts.

Programs that are not the shell's own are run by a function that it is given.
-/
import LintGate.Sandbox.Shell.Builtin
import LintGate.Sandbox.Shell.Reader

set_option autoImplicit false

namespace LintGate.Sandbox.Shell

/-! ## Redirection -/

/-- Where a stream ends up. -/
inductive Sink where
  | stream (toError : Bool)
  | file (path : String)
  | nowhere
deriving DecidableEq, Repr

/-- Writes to a file, at its end. -/
def appendTo (path : String) (b : Bytes) : Run Unit := do
  let s ← get
  let content := ((s.machine.disk.readAt path).toOption).getD []
  let executable := match s.machine.disk.at? path with | .ok (.file _ x) => x | _ => false
  match s.machine.disk.putAt (Path.steps path) (.file (content ++ b) executable) with
  | .ok disk => set { s with machine := { s.machine with disk } }
  | .error _ => return ()

/-- Makes a file empty. -/
def truncate (path : String) : Run Unit := do
  let s ← get
  match s.machine.disk.putAt (Path.steps path) (.file [] false) with
  | .ok disk => set { s with machine := { s.machine with disk } }
  | .error _ => return ()

/-- Writes to where a stream ends up. -/
def Sink.put (b : Bytes) : Sink → Run Unit
  | .stream toError => write toError b
  | .file path => appendTo path b
  | .nowhere => return ()

/-- The streams of a command: its input, if it is redirected, and the ends of its outputs. -/
structure Streams where
  input : Option Bytes := none
  out : Sink := .stream false
  err : Sink := .stream true

/-- Opens redirections in order. A file that cannot be read is told. -/
def openAll (capture : String → Run String) : List Redirect → Streams → Run (Except String Streams)
  | [], st => return .ok st
  | r :: rest, st => do
    match r.target with
    | .stream n =>
      let sink := if n = 2 then st.err else st.out
      openAll capture rest (if r.stream = 2 then { st with err := sink } else { st with out := sink })
    | .file w atEnd => do
      let name := unmark (← expandWord capture w)
      let path := (← get).call.resolve name
      let sink := if path == "/dev/null" then Sink.nowhere else if path == "/dev/stderr" then .stream true
        else if path == "/dev/stdout" then .stream false else .file path
      if !atEnd then
        match sink with
        | .file path => truncate path
        | _ => pure ()
      openAll capture rest (if r.stream = 2 then { st with err := sink } else { st with out := sink })
    | .input w => do
      let name := unmark (← expandWord capture w)
      let path := (← get).call.resolve name
      if path == "/dev/null" then openAll capture rest { st with input := some [] }
      else
        match (← get).machine.disk.readAt path with
        | .ok b => openAll capture rest { st with input := some b }
        | .error _ => return .error ("cannot open " ++ name ++ ": No such file")
    | .document w =>
      let text := unmark (← expandWord capture w)
      openAll capture rest { st with input := some (Bytes.ofText text) }

/-- Runs an action with redirected streams. -/
def redirected (capture : String → Run String) (rs : List Redirect) (action : Run Flow) : Run Flow := do
  if rs.isEmpty then action
  else
    match ← openAll capture rs {} with
    | .error message =>
      complain message
      finish 2
    | .ok st =>
      let before ← get
      let input := st.input.getD before.call.input
      set { before with written := [], call := { before.call with input } }
      let flow ← action
      let after ← get
      let left := if st.input.isSome then before.call.input else after.call.input
      set { after with written := before.written, call := { after.call with input := left } }
      for w in after.written.reverse do
        if w.1 then st.err.put w.2 else st.out.put w.2
      return flow

/-! ## Commands -/

/-- Runs an action in a shell of its own. Only the machine, the output and the time remain. -/
def inSubshell (action : Run Flow) : Run Flow := do
  let before ← get
  let flow ← action
  let after ← get
  let last :=
    match flow with
    | .leave s => Status.number s
    | _ => after.last
  set { before with machine := after.machine, written := after.written, time := after.time, last }
  return .next

/-- Runs an action whose failure is looked for. -/
def guarding (action : Run Flow) : Run Flow := do
  let before := (← get).guarded
  modify fun s => { s with guarded := true }
  let flow ← action
  modify fun s => { s with guarded := before }
  return flow

/-- Ends the script after a failure that nobody looks for, if it is to end then. -/
def checked (flow : Flow) : Run Flow := do
  let s ← get
  if flow = .next && s.last ≠ 0 && s.options.contains 'e' && !s.guarded then return .leave (.exit s.last)
  else return flow

section Commands

-- Runs a program that is not the shell's own.
variable (execute : Call → StateM Machine (Except Fault Result))

/-- Runs a program that is not the shell's own. -/
def runOther (words : List String) : Run Flow := do
  let s ← get
  let name := words.headD ""
  match (execute { s.call with words, environment := s.environment }).run s.machine with
  | (.ok r, machine) =>
    set { s with machine, call := { s.call with input := [] } }
    absorb r
    return .next
  | (.error .notFound, _) =>
    complain (name ++ ": not found")
    finish 127
  | (.error _, _) =>
    complain (name ++ ": Permission denied")
    finish 126

/-- Whether a flow goes on inside of a loop, ends it, or goes further out. -/
def afterRound : Flow → Option Flow
  | .next => none
  | .nextRound 1 => none
  | .nextRound (n + 1) => some (.nextRound n)
  | .nextRound 0 => none
  | .goBack code => some (.goBack code)
  | .breakLoops n => some (if n ≤ 1 then .next else .breakLoops (n - 1))
  | .leave s => some (.leave s)

mutual

/-- Runs a command. The number bounds the depth and the rounds. -/
def run : Nat → Command → Run Flow
  | 0, _ => runOut
  | n + 1, c => do
    match c with
    | .nothing => return .next
    | .simple line assignments words redirects =>
      modify fun s => { s with line }
      let fields ← expandWords (capture n) words
      if (← get).failed then return .leave (.exit 2)
      match fields with
      | [] =>
        modify fun s => { s with last := 0 }
        for (name, w) in assignments do
          assign name (unmark (← expandWord (capture n) w))
        if (← get).failed then return .leave (.exit 2)
        checked (← redirected (capture n) redirects (do return .next))
      | name :: args =>
        let before ← get
        for (name, w) in assignments do
          assign name (unmark (← expandWord (capture n) w))
          exportName name
        let flow ← redirected (capture n) redirects (runWords n name args)
        if name == "exec" && args.isEmpty then
          for r in redirects do
            match r.stream, r.target with
            | 2, .stream 1 => modify fun s => { s with errorToOut := true }
            | 1, .stream 2 => modify fun s => { s with outToError := true }
            | _, _ => pure ()
        if !assignments.isEmpty then
          modify fun s => { s with bindings := before.bindings, exported := before.exported }
        checked flow
    | .define name body =>
      modify fun s => { s with commands := (name, body) :: s.commands, last := 0 }
      return .next
    | .seq left right =>
      match ← run n left with
      | .next => run n right
      | flow => return flow
    | .both left right =>
      match ← guarding (run n left) with
      | .next => if (← get).last = 0 then run n right else return .next
      | flow => return flow
    | .either left right =>
      match ← guarding (run n left) with
      | .next => if (← get).last = 0 then return .next else run n right
      | flow => return flow
    | .not c =>
      match ← guarding (run n c) with
      | .next => finish (if (← get).last = 0 then 1 else 0)
      | flow => return flow
    | .pipe left right =>
      let before ← get
      set { before with written := [] }
      let _ ← inSubshell (run n left)
      let middle ← get
      set { middle with written := errorsOf middle.written ++ before.written,
                        call := { middle.call with input := middle.output false } }
      let flow ← inSubshell (run n right)
      modify fun s => { s with call := { s.call with input := before.call.input } }
      checked flow
    | .loop until_ condition body => runLoop n until_ condition body
    | .branch condition yes no =>
      match ← guarding (run n condition) with
      | .next =>
        if (← get).last = 0 then run n yes
        else
          modify fun s => { s with last := 0 }
          run n no
      | flow => return flow
    | .each name words body =>
      let values ←
        match words with
        | some ws => expandWords (capture n) ws
        | none => do pure (← get).args
      modify fun s => { s with last := 0 }
      runEach n name values body
    | .choose word arms =>
      let value := unmark (← expandWord (capture n) word)
      modify fun s => { s with last := 0 }
      runArms n value arms
    | .arm .. => return .next
    | .group body redirects => redirected (capture n) redirects (run n body)
    | .subshell body redirects => checked (← redirected (capture n) redirects (inSubshell (run n body)))

/-- Runs the words of a simple command. -/
def runWords : Nat → String → List String → Run Flow
  | 0, _, _ => runOut
  | n + 1, name, args => do
    match (← get).commands.lookup name, name, args with
    | some body, _, args =>
      let before ← get
      set { before with args }
      let flow ← run n body
      modify fun s => { s with args := before.args }
      match flow with
      | .goBack code => finish code
      | flow => return flow
    | none, "exec", [] => finish 0
    | none, "exec", rest =>
      match ← runOther execute rest with
      | .next => return .leave (.exit (← get).last)
      | flow => return flow
    | none, "eval", rest => runText n (" ".intercalate rest)
    | none, "command", "-v" :: sought :: _ =>
      match ← whereIs sought with
      | some place =>
        write false (Bytes.ofText (place ++ "\n"))
        finish 0
      | none => finish 127
    | none, "command", name :: rest =>
      if own.contains name then runOwn name rest else runOther execute (name :: rest)
    | none, _, _ => if own.contains name then runOwn name args else runOther execute (name :: args)

/-- Runs a body as long as a condition holds. -/
def runLoop : Nat → Bool → Command → Command → Run Flow
  | 0, _, _, _ => runOut
  | n + 1, until_, condition, body => do
    match ← guarding (run n condition) with
    | .next =>
      if ((← get).last = 0) = !until_ then
        match afterRound (← run n body) with
        | none => runLoop n until_ condition body
        | some flow => return flow
      else finish 0
    | flow => return flow

/-- Runs a body for values. -/
def runEach : Nat → String → List String → Command → Run Flow
  | 0, _, _, _ => runOut
  | _ + 1, _, [], _ => return .next
  | n + 1, name, v :: rest, body => do
    assign name v
    match afterRound (← run n body) with
    | none => runEach n name rest body
    | some flow => return flow

/-- Runs the first arm that has a pattern for a value. -/
def runArms : Nat → String → Command → Run Flow
  | 0, _, _ => runOut
  | n + 1, value, arms => do
    match arms with
    | .arm patterns body rest =>
      let found ← patterns.anyM fun p => do return matchesGlob (← expandWord (capture n) p) value
      if found then run n body else runArms n value rest
    | _ => return .next

/-- Runs the text of a script. -/
def runText : Nat → String → Run Flow
  | 0, _ => runOut
  | n + 1, script => do
    match read script with
    | .ok c => run n c
    | .error e =>
      complain ("Syntax error: " ++ e.text)
      return .leave (.exit 2)

/-- Runs a script and answers what it writes, without the line ends at its end. -/
def capture : Nat → String → Run String
  | 0, _ => return ""
  | n + 1, script => do
    let before ← get
    set { before with written := [] }
    let _ ← inSubshell (runText n script)
    let after ← get
    set { after with written := errorsOf after.written ++ before.written }
    let text := Bytes.lossyText (after.output false)
    return String.ofList (text.toList.reverse.dropWhile (· == '\n')).reverse

end

end Commands

/-- The bound of a shell's depth and rounds. -/
def bound : Nat := 200000

/-- Runs the script that is to be run at the end. -/
def runFarewell (execute : Call → StateM Machine (Except Fault Result)) : Run Unit := do
  match (← get).farewell with
  | some script => let _ ← runText execute bound script
  | none => return ()

/-- Runs a script as a process. -/
def runScript (execute : Call → StateM Machine (Except Fault Result)) (call : Call) (options : List Char)
    (name : String) (args : List String) (script : String) : StateM Machine Result := fun machine =>
  let start : State :=
    { machine, call, name, args, options, bindings := call.environment, exported := call.environment.map (·.1) }
  let (flow, s) := (runText execute bound script).run start
  let status :=
    match flow with
    | .leave s => s
    | .goBack code => .exit code
    | _ => .exit s.last
  let (_, s) := (runFarewell execute).run s
  ({ status, out := s.output false, err := s.output true, time := s.time }, s.machine)

end LintGate.Sandbox.Shell
