/-
Putting texts into places.
-/

set_option autoImplicit false

namespace LintGate.Text

/-- Replaces a place by a text wherever it occurs, from the left and without overlaps. What was put in
is not searched again. The place is `first` followed by `others`. -/
def substituteChars (first : Char) (others text : List Char) : List Char → List Char
  | [] => []
  | c :: rest =>
    if c = first ∧ others.isPrefixOf rest then
      text ++ substituteChars first others text (rest.drop others.length)
    else c :: substituteChars first others text rest
termination_by s => s.length
decreasing_by
  · simp only [List.length_drop, List.length_cons]
    omega
  · simp

/-- Puts a text into every occurrence of a place. The place that is empty occurs nowhere. -/
def substitute (place text s : String) : String :=
  match place.toList with
  | [] => s
  | first :: others => String.ofList (substituteChars first others text.toList s.toList)

end LintGate.Text
