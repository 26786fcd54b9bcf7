/-
Unified deltas without context lines.

A delta names the two sides in two header lines and then lists its hunks. A
hunk's own header gives the two ranges it covers, its body the removed lines and
then the added ones. A line without a terminator is followed by the remark that
says so. Equal texts have no hunks and an empty delta.
-/
import LintGate.Diff.Hunk
import LintGate.Text.Lines

set_option autoImplicit false

namespace LintGate.Diff

/-- A range of a hunk header: a single line by its number, any other range by the number of its
first line and its length, an empty one by the line it follows. -/
def showRange (start stop : Nat) : String :=
  let len := stop - start
  if len = 1 then toString (start + 1)
  else toString (if len = 0 then start else start + 1) ++ "," ++ toString len

/-- The remark after a line that ends the text without a terminator. -/
def missingTerminator : String := "\n\\ No newline at end of file\n"

/-- A line of a hunk body under its marker. -/
def showLine (marker : String) (line : String) : String :=
  marker ++ line ++ (if Text.isTerminated line then "" else missingTerminator)

/-- The lines `[start, start + len)` of a side. -/
def linesOf (side : Array String) (start len : Nat) : List String :=
  (side.toList.drop start).take len

/-- A hunk with its header. -/
def Hunk.render (h : Hunk) (old new : Array String) : String :=
  "@@ -" ++ showRange h.oldFrom h.oldTo ++ " +" ++ showRange h.newFrom h.newTo ++ " @@\n"
    ++ String.join ((linesOf old h.change.old h.change.oldLen).map (showLine "-"))
    ++ String.join ((linesOf new h.change.new h.change.newLen).map (showLine "+"))

/-- The hunks between two texts. -/
def hunksBetween (old new : Array String) : List Hunk := hunks (compact old new (script old new))

/-- The delta from an old text to a new one under the two names; empty when the texts are equal. -/
def unifiedDelta (oldText newText oldName newName : String) : String :=
  let old := (Text.lines oldText).toArray
  let new := (Text.lines newText).toArray
  match hunksBetween old new with
  | [] => ""
  | hs =>
    "--- " ++ oldName ++ "\n+++ " ++ newName ++ "\n"
      ++ String.join (hs.map fun h => h.render old new)

end LintGate.Diff
