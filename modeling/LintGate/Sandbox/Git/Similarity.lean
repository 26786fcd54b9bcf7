/-
How similar two files are.

A file is cut into runs of characters, mostly its lines, and each run is boiled down
to a number. Two files are as similar as the numbers they share. Blanks at the front
of lines do not count, and neither do empty lines. Files of very few runs are not
compared at all.
-/
import LintGate.Text.Bytes

set_option autoImplicit false

namespace LintGate.Sandbox.Similarity

/-- The greatest length of a run. -/
def maxRun : Nat := 80

/-- The number of runs that are kept at each end of the order. -/
def kept : Nat := 127

/-- The number of runs below which a file is not compared. -/
def fewest : Nat := 4

/-- The number of a run with one more character. -/
def mix (state : UInt64) (c : UInt8) : UInt64 := (state <<< 5) - state + c.toUInt64

/-- The number of an empty run. -/
def start : UInt64 := 0x012345678ABCDEF0

/-- Whether a character is a blank that does not end a line. -/
def isBlank (c : UInt8) : Bool := c == 0x20 || c == 0x09 || c == 0x0b || c == 0x0c || c == 0x0d

/-- Whether a character ends a run. -/
def isEnd (c : UInt8) : Bool := c == 0x0a || c == 0

/-- A run: its number and its length, whether blanks are to be skipped after it, and what comes next. -/
structure Run where
  state : UInt64
  length : Nat
  skipping : Bool
  rest : Bytes

/-- Reads a run. The number bounds the characters that are looked at. -/
def readRun : Nat → Bool → UInt64 → Nat → Bytes → Run
  | 0, skipping, state, length, b => ⟨state, length, skipping, b⟩
  | n + 1, skipping, state, length, b =>
    if maxRun ≤ length then ⟨state, length, skipping, b⟩
    else
      match b.dropWhile (if skipping then isBlank else (· == 0x0d)) with
      | [] => ⟨state, length, false, []⟩
      | c :: rest =>
        if isEnd c then ⟨state, length, c == 0x0a, rest⟩
        else readRun n (c == 0x0a) (mix state c) (length + 1) rest

/-- The numbers of the runs of a file. -/
def readRuns : Nat → Bool → Bytes → List Nat
  | 0, _, _ => []
  | _, _, [] => []
  | n + 1, skipping, b =>
    let run := readRun (b.length + 1) skipping start 0 b
    if run.length = 0 then readRuns n run.skipping run.rest
    else run.state.toUInt32.toNat :: readRuns n run.skipping (run.rest.dropWhile isEnd)

/-- The numbers of a file, in order. -/
def signature (b : Bytes) : List Nat := (readRuns (b.length + 1) false b).mergeSort

/-- The number of entries that two lists in order share. -/
def common : Nat → List Nat → List Nat → Nat
  | 0, _, _ => 0
  | _, [], _ => 0
  | _, _, [] => 0
  | n + 1, x :: xs, y :: ys =>
    if x < y then common n xs (y :: ys)
    else if y < x then common n (x :: xs) ys
    else common n xs ys + 1

/-- How similar two lists in order are, of a hundred. -/
def score (xs ys : List Nat) : Nat :=
  100 * (common (xs.length + ys.length) xs ys * 2) / (xs.length + ys.length)

/-- How similar two files are, of a hundred, unless they are not compared. -/
def measure? (a b : Bytes) : Option Nat :=
  if a = b then some 100
  else if 127 < a.length && 127 < b.length && (b.length * 8 < a.length || a.length * 8 < b.length) then none
  else
    let xs := signature a
    let ys := signature b
    if xs.length < fewest || ys.length < fewest then none
    else if xs.length < kept then some (score xs (ys.take kept))
    else
      let tail (l : List Nat) : List Nat := l.drop (l.length - kept)
      some ((score (xs.take kept) (ys.take kept) + score (tail xs) (tail ys)) / 2)

end LintGate.Sandbox.Similarity
