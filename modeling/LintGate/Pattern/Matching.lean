/-
Matching a pattern against a text.

An expression relates the places of a text: from each place where it may start it
leads to the places where it may end. `Expr.ends` maps a set of starts to the set
of ends, so that repetition is the closure of a map on a finite set and no text
takes more than polynomial time. A pattern matches a text when it leads anywhere
from any place.
-/
import LintGate.Pattern.Expr

set_option autoImplicit false

namespace LintGate.Pattern

/-- Adds to `seen` the places of `extra` that it does not hold yet. -/
def merge (seen extra : List Nat) : List Nat :=
  extra.foldl (fun acc i => if acc.contains i then acc else i :: acc) seen

/-- The places reached from `frontier` by any number of steps, given those reached already. The
bound `left` is the number of places that can still be new. -/
def closure (step : List Nat → List Nat) : Nat → List Nat → List Nat → List Nat
  | 0, seen, _ => seen
  | left + 1, seen, frontier =>
    let new := (step frontier).filter fun i => !seen.contains i
    if new.isEmpty then seen else closure step left (merge seen new) new

/-- The places reached by exactly `n` steps. -/
def iterate (step : List Nat → List Nat) : Nat → List Nat → List Nat
  | 0, starts => starts
  | n + 1, starts => if starts.isEmpty then [] else iterate step n (step starts)

/-- The places reached by at most `n` steps. -/
def iterateUpTo (step : List Nat → List Nat) : Nat → List Nat → List Nat
  | 0, starts => starts
  | n + 1, starts =>
    if starts.isEmpty then [] else merge starts (iterateUpTo step n (step starts))

namespace Expr

/-- The places of `text` where a match of the expression that starts at one of `starts` ends. -/
def ends (text : Array Char) : Expr → List Nat → List Nat
  | empty, starts => starts
  | set s, starts =>
    starts.filterMap fun i =>
      match text[i]? with
      | some c => if s.mem c then some (i + 1) else none
      | none => none
  | anchor a, starts =>
    starts.filter fun i => a.holds (if i = 0 then none else text[i - 1]?) text[i]?
  | seq x y, starts => ends text y (ends text x starts)
  | alt x y, starts => merge (ends text x starts) (ends text y starts)
  | rep x min none, starts =>
    let first := iterate (ends text x) min starts
    closure (ends text x) (text.size + 1) first first
  | rep x min (some max), starts =>
    iterateUpTo (ends text x) (max - min) (iterate (ends text x) min starts)

/-- Whether the pattern matches somewhere in the text. -/
def isMatch (x : Expr) (text : String) : Bool :=
  let chars := text.toList.toArray
  !(x.ends chars (List.range (chars.size + 1))).isEmpty

end Expr

end LintGate.Pattern
