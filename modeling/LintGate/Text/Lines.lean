/-
Lines of a text.

A line ends at a line feed, at a carriage return followed by a line feed, or at
a carriage return alone, and it keeps its terminator. The last line may have
none. Cutting loses nothing: joining the lines gives the text back, and no line
is empty. The defect scan uses a coarser notion, the pieces between line feeds;
both live here so that the two can be compared.
-/

set_option autoImplicit false

namespace LintGate.Text

/-! ## Lines with their terminators -/

/-- A character that ends a line. -/
def isBreak (c : Char) : Bool := c == '\n' || c == '\r'

/-- The lines of a text, each with its terminator. -/
def cutLines : List Char → List (List Char)
  | [] => []
  | '\r' :: '\n' :: rest => ['\r', '\n'] :: cutLines rest
  | c :: rest =>
    if isBreak c then [c] :: cutLines rest
    else
      match cutLines rest with
      | [] => [[c]]
      | line :: lines => (c :: line) :: lines

/-- Nothing is lost: the lines joined are the text. -/
theorem flatten_cutLines (s : List Char) : (cutLines s).flatten = s := by
  fun_induction cutLines s <;> simp_all

/-- No line is empty. -/
theorem ne_nil_of_mem_cutLines {s line : List Char} (h : line ∈ cutLines s) : line ≠ [] := by
  fun_induction cutLines s <;> simp_all <;> rcases h with rfl | h <;> simp_all

/-- The lines of a string, as strings. -/
def lines (s : String) : List String := (cutLines s.toList).map String.ofList

/-- Whether a line carries a terminator. -/
def isTerminated (line : String) : Bool :=
  match line.toList.getLast? with
  | some c => isBreak c
  | none => false

/-! ## Pieces between line feeds -/

/-- The pieces of a text between its line feeds; there is always at least one. -/
def splitFeeds : List Char → List (List Char)
  | [] => [[]]
  | c :: rest =>
    if c = '\n' then [] :: splitFeeds rest
    else
      match splitFeeds rest with
      | [] => [[c]]
      | piece :: pieces => (c :: piece) :: pieces

/-- A text has at least one piece. -/
theorem splitFeeds_ne_nil (s : List Char) : splitFeeds s ≠ [] := by
  fun_induction splitFeeds s <;> simp_all

/-- The pieces of a string between its line feeds. -/
def pieces (s : String) : List String := (splitFeeds s.toList).map String.ofList

/-- A line without the carriage return before its line feed. -/
def withoutReturn (line : List Char) : List Char :=
  if line.getLast? = some '\r' then line.dropLast else line

/-- The lines among the pieces of a text: all but the last piece are terminated by a line feed, and
the last is a line only if it holds something. -/
def shownPieces : List (List Char) → List (List Char)
  | [] => []
  | [last] => if last.isEmpty then [] else [last]
  | line :: rest => withoutReturn line :: shownPieces rest

/-- The lines of a text as a listing shows them. -/
def shownLines (s : String) : List String := (shownPieces (splitFeeds s.toList)).map String.ofList

end LintGate.Text
