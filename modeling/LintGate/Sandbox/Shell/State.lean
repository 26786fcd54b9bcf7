/-
The state of a shell.

A shell keeps variables and arguments, and its output in the order in which it was
written, each piece with its stream.
-/
import LintGate.Sandbox.Process
import LintGate.Sandbox.Shell.Expansion

set_option autoImplicit false

namespace LintGate.Sandbox.Shell

/-- The state of a shell. -/
structure State where
  machine : Machine
  call : Call
  /-- The name of the script, and its arguments. -/
  name : String
  args : List String
  bindings : List (String × String) := []
  /-- The variables that processes get to see. -/
  exported : List String := []
  /-- The commands that the script defines. -/
  commands : List (String × Command) := []
  /-- The letters of the options that are set. -/
  options : List Char := []
  /-- The script to be run at the end. -/
  farewell : Option String := none
  /-- Where the two streams go, when a script has sent one to the other. -/
  outToError : Bool := false
  errorToOut : Bool := false
  /-- Whether failures are looked for by the script itself. -/
  guarded : Bool := false
  /-- Whether an expansion failed. -/
  failed : Bool := false
  line : Nat := 1
  last : Nat := 0
  /-- What was written, the last piece first; `true` marks the error stream. -/
  written : List (Bool × Bytes) := []
  time : Nat := 0

/-- Where the control goes after a command. -/
inductive Flow where
  | next
  | leave (s : Status)
  /-- Back from a command of one's own. -/
  | goBack (code : Nat)
  | breakLoops (n : Nat)
  | nextRound (n : Nat)
deriving DecidableEq, Repr

/-- An action of a shell. -/
abbrev Run := StateM State

/-- The process number of every shell. -/
def processNumber : String := "4242"

/-! ## Small actions -/

/-- Writes to a stream. -/
def write (toError : Bool) (b : Bytes) : Run Unit :=
  modify fun s =>
    let end_ := if toError then !s.errorToOut else s.outToError
    if b.isEmpty then s else { s with written := (end_, b) :: s.written }

/-- Tells an error, with the name and the line of the script. -/
def complain (message : String) : Run Unit := do
  let s ← get
  write true (Bytes.ofText (s.name ++ s!": {s.line}: " ++ message ++ "\n"))

/-- Sets the status of the last command. -/
def finish (code : Nat) : Run Flow := do
  modify fun s => { s with last := code }
  return .next

/-- Ends a script that does not end by itself. It has taken longer than anyone waits. -/
def runOut : Run Flow := do
  modify fun s => { s with time := s.time + 1000000000000000 }
  return .leave (.exit 2)

/-- The number by which a status is told. -/
def Status.number : Status → Nat
  | .exit code => code
  | .signal n => 128 + n

/-- Takes over what a process left. -/
def absorb (r : Result) : Run Unit := do
  write false r.out
  write true r.err
  modify fun s => { s with last := Status.number r.status, time := s.time + r.time }

/-- The value of a variable that is no special one. -/
def State.variable (s : State) (name : String) : Option String := s.bindings.lookup name

/-- The value of any variable. -/
def State.value? (s : State) (name : String) : Option String :=
  match name with
  | "?" => some s!"{s.last}"
  | "$" => some processNumber
  | "#" => some s!"{s.args.length}"
  | "0" => some s.name
  | "@" => some (" ".intercalate s.args)
  | "*" => some (" ".intercalate s.args)
  | "-" => some ""
  | "!" => some ""
  | "PWD" => some s.call.cwd
  | "PATH" => some (":".intercalate s.machine.searched)
  | _ =>
    match name.toNat? with
    | some n => s.args[n - 1]?
    | none => s.variable name

/-- Gives a variable a value. -/
def assign (name value : String) : Run Unit :=
  modify fun s => { s with bindings := (name, value) :: s.bindings.filter fun v => v.1 != name }

/-- Lets processes see a variable. -/
def exportName (name : String) : Run Unit :=
  modify fun s => if s.exported.contains name then s else { s with exported := s.exported ++ [name] }

/-- The variables that a process gets to see. -/
def State.environment (s : State) : List (String × String) :=
  s.exported.filterMap fun name => (s.bindings.lookup name).map fun v => (name, v)

/-- The bytes that were written to a stream. -/
def State.output (s : State) (toError : Bool) : Bytes :=
  (s.written.reverse.filter fun w => w.1 == toError).flatMap (·.2)

/-- The pieces that were written to the error stream. -/
def errorsOf (written : List (Bool × Bytes)) : List (Bool × Bytes) := written.filter fun w => w.1

/-! ## Expansion -/

section Expansion

-- The output of a script.
variable (capture : String → Run String)

/-- The value of a variable after its operator. The operand is read as if it stood in quotes. -/
def applyForm (expandOperand : String → Run Marked) (name op operand : String) : Run String := do
  let s ← get
  let value := s.value? name
  let given := (value.map fun v => !v.isEmpty).getD false
  let present := if op.startsWith ":" then given else value.isSome
  let plain := value.getD ""
  if op == "" && value.isNone && s.options.contains 'u' then
    complain (name ++ ": parameter not set")
    modify fun s => { s with failed := true }
  match op with
  | "" => return plain
  | "size" => return s!"{plain.length}"
  | "#" => return dropFront (← expandOperand operand) false plain
  | "##" => return dropFront (← expandOperand operand) true plain
  | "%" => return dropEnd (← expandOperand operand) false plain
  | "%%" => return dropEnd (← expandOperand operand) true plain
  | ":+" => if present then return unmark (← expandOperand operand) else return ""
  | "+" => if present then return unmark (← expandOperand operand) else return ""
  | _ =>
    if present then return plain
    else
      let other := unmark (← expandOperand operand)
      if op == ":=" || op == "=" then assign name other
      if op == ":?" || op == "?" then
        complain (name ++ ": " ++ if other.isEmpty then "parameter not set" else other)
        modify fun s => { s with failed := true }
      return other

/-- The value of variables inside of an expression. -/
def State.number (s : State) (name : String) : String := (s.value? name).getD "0"

/-- What a part of a word expands to. The number bounds the depth of operands. -/
def expandPiece : Nat → Piece → Run Chunk
  | 0, _ => return .literal []
  | n + 1, p => do
    let s ← get
    match p with
    | .text t quoted => return .literal (mark t quoted)
    | .variable "@" "" _ quoted => return if quoted then .fields s.args else .loose (" ".intercalate s.args)
    | .variable name op operand quoted =>
      let expandOperand (t : String) : Run Marked := do
        match readWord (t.length + 1) (t.toList) with
        | some (w, []) =>
          let chunks ← w.mapM (expandPiece n)
          return joined chunks
        | _ => return mark t false
      let value ← applyForm expandOperand name op operand
      return if quoted then .literal (mark value true) else .loose value
    | .output script quoted =>
      let value ← capture script
      return if quoted then .literal (mark value true) else .loose value
    | .arithmetic body quoted =>
      let value := s!"{arithmetic s.number body}"
      return if quoted then .literal (mark value true) else .loose value

/-- The fields of words. -/
def expandWords (ws : List Word) : Run (List String) := do
  let fields ← ws.mapM fun w => do return fieldsOf (← w.mapM (expandPiece capture 4))
  let s ← get
  return fields.flatten.flatMap (filesOf s.machine.disk s.call.cwd)

/-- A word that is not split. -/
def expandWord (w : Word) : Run Marked := do return joined (← w.mapM (expandPiece capture 4))

end Expansion

end LintGate.Sandbox.Shell
