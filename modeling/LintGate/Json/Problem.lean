/-
What can be wrong with a document.
-/

set_option autoImplicit false

namespace LintGate.Json

/-- What is wrong with a document: it is no well-formed text, it ends too early, or it holds
something that does not fit. -/
inductive Problem where
  | malformed
  | unfinished
  | unfit (detail : String)
deriving DecidableEq, Repr

/-- The text of a problem. -/
def Problem.text : Problem → String
  | malformed => "the text is not well formed"
  | unfinished => "the text ends too early"
  | unfit detail => detail

end LintGate.Json
