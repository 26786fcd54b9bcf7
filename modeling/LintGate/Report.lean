/-
The report of one run.

A report is a body of blocks and a flag. Blocks are appended, each behind a
separator; the flag is set outright or because a line of the body is a newly
introduced defect, and nothing clears it. A flagged report ends up in the log,
whole or not at all: it is written beside the log and then put in its place. An
unflagged one removes the log of an earlier run.
-/
import LintGate.Defect
import LintGate.Files.Folder

set_option autoImplicit false

namespace LintGate

/-- What a run has to report so far. -/
structure Report where
  body : String := ""
  flagged : Bool := false
deriving DecidableEq, Repr

namespace Report

/-- What stands in front of every block. -/
def separator : String := "\n\n\n"

/-- Appends a block. -/
def push (r : Report) (block : String) : Report := { r with body := r.body ++ separator ++ block }

/-- Sets the flag whatever the body says. -/
def flag (r : Report) : Report := { r with flagged := true }

/-- Sets the flag if a line of the body is a newly introduced defect. -/
def classify (r : Report) (matcher : Matcher) : Report :=
  { r with flagged := r.flagged || detectsDefect r.body matcher }

end Report

/-! ## The log -/

namespace Report

variable {σ : Type}

/-- The content of the log: a line with the time, and the body. -/
def content (r : Report) (time : String) : Bytes := Bytes.ofText (time ++ "\n" ++ r.body)

/-- Writes into a file that is there, and gives it its name. -/
def fillAndName (made name : String) (content : Bytes) : StateM Folder (Except Fault Unit) := do
  match ← Folder.perform (·.write made content) with
  | .error e => return .error e
  | .ok () => Folder.perform (·.rename made name)

/-- Makes a file under a free name, and fills and names it. One that does not come to its name is
taken away again. -/
def replaceFile (name : String) (content : Bytes) : StateM Folder (Except Fault Unit) := do
  let free := (← get).freeName
  match ← Folder.perform (·.create free) with
  | .error e => return .error e
  | .ok () =>
    match ← fillAndName free name content with
    | .ok () => return .ok ()
    | .error e =>
      modify (·.erase free)
      return .error e

/-- Writes the log if the report is flagged, and removes an earlier one if not. Answers the flag. -/
def finish (r : Report) (time : String) (log : Spot σ) : StateM σ (Except Fault Bool) := do
  if r.flagged then
    return (← log.place.within (replaceFile log.name (r.content time))).map fun _ => true
  else
    return (← log.clear).map fun _ => false

end Report

end LintGate
