/-
The lock of a repository.

Two runs that set changes aside in one repository would take each other's. So a run
claims the repository by a file that it alone can create, and writes its process
number into it. A lock whose process is gone is taken over, unless frames of that
run are still there: they hold someone's changes.

Taking the lock is a sequence of steps on the file, between which other runs may
act. A stage tells which step comes next; `advance` performs it.
-/
import LintGate.Isolation
import LintGate.Text.Blank
import LintGate.Files.Folder

set_option autoImplicit false

namespace LintGate.Lock

/-! ## Process numbers -/

/-- The value of decimal digits. -/
def digitsValue? : List Char → Option Nat
  | [] => none
  | digits => if digits.all Char.isDigit then
      some (digits.foldl (fun n c => n * 10 + (c.toNat - '0'.toNat)) 0)
    else none

/-- The process number that a lock names. -/
def holder? (content : Bytes) : Option Nat :=
  (Bytes.text? content).bind fun s =>
    let digits :=
      match (Text.trim s).toList with
      | '+' :: rest => rest
      | other => other
    (digitsValue? digits).filter (· < UInt32.size)

/-- Whether a number names a process that runs. Only positive numbers of 31 bits name processes. -/
def isRunning (alive : Nat → Bool) (pid : Nat) : Bool := 0 < pid && pid < 2147483648 && alive pid

/-- What a run writes into its lock. -/
def claim (self : Nat) : Bytes := Bytes.ofText (s!"{self}" ++ "\n")

/-! ## Refusals -/

/-- The refusal when another run may hold the lock. -/
def heldBy (path : String) (holder : Option Nat) : RunError :=
  let pid :=
    match holder with
    | some pid => s!"{pid}"
    | none => "unknown"
  .environment ("another difflint run holds " ++ path ++ " (pid " ++ pid
    ++ "); remove it if that run is gone")

/-- The refusal when an interrupted run left frames. -/
def stranded (path : String) (pid : Nat) (frames : List Frame) : RunError :=
  .environment (s!"an interrupted difflint run (pid {pid}) left changes in stash entries "
    ++ ", ".intercalate (frames.map (·.id))
    ++ "; recover them with \x60git stash apply --index <id>\x60, unstaged changes first, then remove "
    ++ path)

/-- The refusal when the frames cannot be listed. -/
def unlisted (e : VcsError) : RunError := .environment ("failed to inspect the stash: " ++ e.text)

/-! ## Steps -/

/-- What an attempt to take the lock does next. -/
inductive Stage where
  /-- Create the file. -/
  | create
  /-- Read who holds the lock. -/
  | inspect
  /-- See whether the holder runs. -/
  | probe (pid : Nat)
  /-- See whether the holder left frames. -/
  | askFrames (pid : Nat)
  /-- Remove the lock of a run that is gone. -/
  | removeStale (pid : Nat)
  /-- Create the file again. -/
  | recreate
  /-- Write the own process number. -/
  | sign
  /-- Remove the file that could not be signed. -/
  | withdraw (error : RunError)
  /-- Read who holds the lock, to tell. -/
  | tell
  /-- The lock is taken. -/
  | taken
  /-- The lock is not to be had. -/
  | refused (error : RunError)
deriving DecidableEq, Repr

/-- What comes after the file was to be created. -/
def Stage.afterCreate (path : String) (occupied : Stage) : Except Fault Unit → Stage
  | .ok () => .sign
  | .error .taken => occupied
  | .error e => .refused (.io path e.text)

variable {σ : Type} (vcs : VersionControl σ) (alive : Nat → Bool) (self : Nat) (spot : Spot σ)

/-- The process number in the lock, if it can be read. -/
def readHolder : StateM σ (Option Nat) := do
  match ← spot.place.read spot.name with
  | .ok content => return holder? content
  | .error _ => return none

/-- Signs the file, if it is still there. -/
def sign : StateM σ (Except Fault Unit) := spot.place.attempt fun f =>
  match f.get? spot.name with
  | some (.file _ executable) => .ok (f.put spot.name (.file (claim self) executable))
  | _ => .ok f

/-- Performs the next step of an attempt. -/
def advance : Stage → Act σ Stage
  | .create => do return .afterCreate spot.path .inspect (← Act.quietly spot.create)
  | .inspect => do
    match ← Act.quietly (readHolder spot) with
    | some pid => return .probe pid
    | none => return .tell
  | .probe pid => return if isRunning alive pid then .tell else .askFrames pid
  | .askFrames pid => do
    match ← vcs.askHeldFrames [unstagedLabel, stagedLabel] with
    | .error e => return .refused (unlisted e)
    | .ok [] => return .removeStale pid
    | .ok frames => return .refused (stranded spot.path pid frames)
  | .removeStale pid => do
    Act.line .warning (s!"removing stale lock left by pid {pid} (" ++ spot.path ++ ")")
    match ← Act.quietly spot.clear with
    | .ok () => return .recreate
    | .error e => return .refused (.io spot.path e.text)
  | .recreate => do return .afterCreate spot.path .tell (← Act.quietly spot.create)
  | .sign => do
    match ← Act.quietly (sign self spot) with
    | .ok () => return .taken
    | .error e => return .withdraw (.io spot.path e.text)
  | .withdraw e => do
    -- whether that works is not told
    let _ ← Act.quietly spot.remove
    return .refused e
  | .tell => do return .refused (heldBy spot.path (← Act.quietly (readHolder spot)))
  | .taken => return .taken
  | .refused e => return .refused e

/-- The greatest number of steps that an attempt still takes. -/
def Stage.rank : Stage → Nat
  | create => 8
  | inspect => 7
  | probe _ => 6
  | askFrames _ => 5
  | removeStale _ => 4
  | recreate => 3
  | sign => 2
  | withdraw _ => 1
  | tell => 1
  | taken => 0
  | refused _ => 0

/-- Performs steps of an attempt without anyone in between. -/
def advanceBy : Nat → Stage → Act σ Stage
  | 0, stage => return stage
  | n + 1, stage => do advanceBy n (← advance vcs alive self spot stage)

/-- Takes the lock, or tells why it is not to be had. -/
def acquire : Act σ (Except RunError Unit) := do
  match ← advanceBy vcs alive self spot Stage.create.rank .create with
  | .refused e => return .error e
  | _ => return .ok ()

/-- Gives the lock back. -/
def release : Act σ Unit := do
  match ← Act.quietly spot.clear with
  | .ok () => return ()
  | .error e => Act.line .warning ("failed to remove " ++ spot.path ++ ": " ++ e.text)

end LintGate.Lock
