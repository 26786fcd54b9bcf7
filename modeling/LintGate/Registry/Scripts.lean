/-
Writing the reporter scripts.

The scripts are written out once, into a new directory, when a linter first asks for one.
The directory is kept with the registry for all later linters; if one of the scripts
cannot be written, it is removed, nothing is kept, and the next linter that asks tries
again.
-/
import LintGate.Config.Script
import LintGate.Registry.Run

set_option autoImplicit false

namespace LintGate

/-- What linters need of the system on which they run. -/
structure System (σ : Type) where
  /-- Runs a program with arguments, for so many seconds at most. -/
  run : String → List String → Nat → StateM σ Ending
  /-- Whether a path below the root leads to a file. -/
  isFile : String → σ → Bool
  /-- Makes a new directory, or tells why it cannot. -/
  makeDirectory : StateM σ (Except String String)
  /-- Writes a text into a file, or tells why it cannot. -/
  writeFile : String → String → StateM σ (Except String Unit)
  /-- Removes a directory with what is in it. -/
  removeDirectory : String → StateM σ Unit

/-- A world, and the directory of the reporter scripts once they are written. -/
structure Equipped (σ : Type) where
  world : σ
  scripts : Option String := none
deriving DecidableEq, Repr

namespace System

variable {σ α : Type} (system : System σ)

/-! ## Writing -/

/-- Writes reporter scripts into a directory, up to the first that cannot be written. -/
def writeScripts (dir : String) : List Reporter → StateM σ (Except String Unit)
  | [] => return .ok ()
  | reporter :: rest => do
    let path := Path.join dir reporter.fileName
    match ← system.writeFile path reporter.script with
    | .error reason => return .error ("failed to write " ++ path ++ ": " ++ reason)
    | .ok () => writeScripts dir rest

/-- A new directory with all reporter scripts. -/
def newScripts : StateM σ (Except String String) := do
  match ← system.makeDirectory with
  | .error reason => return .error ("failed to create reporter directory: " ++ reason)
  | .ok dir =>
    match ← system.writeScripts dir Reporter.all with
    | .error message =>
      system.removeDirectory dir
      return .error message
    | .ok () => return .ok dir

/-! ## Keeping -/

/-- What is done in the world leaves the scripts where they are. -/
def inWorld (act : StateM σ α) : StateM (Equipped σ) α := fun e =>
  ((act e.world).1, { e with world := (act e.world).2 })

/-- Writes the scripts, unless that was done before. -/
def equip : StateM (Equipped σ) (Except String Unit) := do
  match (← get).scripts with
  | some _ => return .ok ()
  | none =>
    match ← inWorld system.newScripts with
    | .error message => return .error message
    | .ok dir =>
      modify fun e => { e with scripts := some dir }
      return .ok ()

/-- The directory of the reporter scripts, which are written out at first use. -/
def scriptDirectory : StateM (Equipped σ) (Except String String) := do
  match ← system.equip with
  | .error message => return .error message
  | .ok () =>
    match (← get).scripts with
    | some dir => return .ok dir
    | none => return .error "reporter directory unavailable"

/-- A system as the world of a registry's linters. -/
def host : Host (Equipped σ) where
  run program args timeout := inWorld (system.run program args timeout)
  isFile path e := system.isFile path e.world
  reporterDirectory := system.scriptDirectory

end System

end LintGate
