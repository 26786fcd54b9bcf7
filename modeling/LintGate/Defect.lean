/-
Which lines of a report are newly introduced defects.

A matcher is any predicate on lines. The usual one is a pattern; the default
pattern accepts records of three fields separated by bars, unless they carry the
mark of a removed line. A record's first field may be empty behind its mark, the
others may not. Header lines of that shape are accepted too: a false alarm is
better than a regression let through.
-/
import LintGate.Pattern.Parser
import LintGate.Pattern.Matching
import LintGate.Text.Lines

set_option autoImplicit false

namespace LintGate

/-- Decides whether a line of a report is a newly introduced defect. -/
abbrev Matcher := String → Bool

namespace Matcher

/-- The pattern of a record of three fields that is not marked as removed. -/
def recordPattern : String := "^[^\\-].*\\|.+\\|.+"

/-- The matcher of a pattern. -/
def ofPattern (text : String) : Except Pattern.Malformed Matcher :=
  (Pattern.parse text).map fun x => x.isMatch

/-- The default matcher. -/
def records : Matcher :=
  match Pattern.parse recordPattern with
  | .ok x => x.isMatch
  | .error _ => fun _ => false

end Matcher

/-- Whether some line of a report is a newly introduced defect. -/
def detectsDefect (report : String) (matcher : Matcher) : Bool :=
  (Text.pieces report).any matcher

end LintGate
