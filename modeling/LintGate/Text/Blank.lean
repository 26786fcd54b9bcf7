/-
Blank space at the ends of a text.
-/
import LintGate.Unicode.Property

set_option autoImplicit false

namespace LintGate.Text

/-- Takes away what a test accepts, at both ends. -/
def strip (p : Char → Bool) (s : List Char) : List Char :=
  ((s.dropWhile p).reverse.dropWhile p).reverse

/-- A text without blank space at its ends. -/
def trim (s : String) : String := String.ofList (strip Unicode.isWhiteSpace s.toList)

end LintGate.Text
