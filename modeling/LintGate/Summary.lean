/-
What a run tells its caller: lines on the console and an exit code.
-/
import LintGate.Gate

set_option autoImplicit false

namespace LintGate

namespace Outcome

/-- The line on a verdict. -/
def verdictLine : String × Verdict → Console.Message
  | (path, .regressed) => .line .warning (path ++ " introduced linting errors")
  | (path, _) => .line .status (path ++ " introduced no new linting errors")

/-- The line on a file that was left out. -/
def failureLine (f : LintFailure) : Console.Message :=
  .line .error (f.path ++ " was not compared (" ++ f.phase.text ++ "): " ++ f.error.text)

/-- The line on the log. -/
def logLine (path : String) : Console.Message :=
  .line .warning ("new linting errors written to " ++ path)

/-- What a run has to say. -/
def summary (o : Outcome) (logPath : String) : List Console.Message :=
  o.verdicts.map verdictLine ++ o.failures.map failureLine
    ++ if o.logWritten then [logLine logPath] else []

/-- Whether a run found a regression. -/
def regressed (o : Outcome) : Bool := o.flagged || o.verdicts.any fun v => v.2 == .regressed

/-- The exit code of a run. Without `reject` every run passes. -/
def exitCode (o : Outcome) (reject : Bool) : Nat :=
  if reject && o.regressed then 1
  else if reject && !o.failures.isEmpty then 2
  else 0

end Outcome

/-- The exit code of a run that could not bring the workspace back. -/
def desyncExitCode : Nat := 3

end LintGate
