/-
Patterns as the tools write them.

The tools know two notations. In the older one the signs for groups and choices are
plain until a backslash makes them special; it is turned into the newer one, in
which patterns are read.
-/
import LintGate.Pattern.Matching
import LintGate.Pattern.Parser

set_option autoImplicit false

namespace LintGate.Sandbox.Tools

open LintGate.Pattern (Expr)

/-- The signs that change their meaning behind a backslash in the older notation. -/
def isSwapped (c : Char) : Bool := "+?|()\x7b\x7d".toList.contains c

/-- A pattern of the older notation in the newer one. -/
def modernize : List Char → List Char
  | '\\' :: c :: rest => if isSwapped c then c :: modernize rest else '\\' :: c :: modernize rest
  | c :: rest => if isSwapped c then '\\' :: c :: modernize rest else c :: modernize rest
  | [] => []

/-- A text as a pattern of itself. -/
def literally (s : List Char) : List Char :=
  s.flatMap fun c => if c.isAlphanum || c == ' ' || c == '_' || 0x80 ≤ c.toNat then [c] else ['\\', c]

/-- Reads a pattern. -/
def pattern? (s : List Char) : Option Expr := (Pattern.parse (String.ofList s)).toOption

/-- The longest match of a pattern at a place: where it ends. -/
def matchEnd? (x : Expr) (text : Array Char) (start : Nat) : Option Nat :=
  match x.ends text [start] with
  | [] => none
  | e :: es => some (es.foldl Nat.max e)

/-- The first match of a pattern from a place on: where it starts and ends. -/
def firstMatch? (x : Expr) (text : Array Char) (start : Nat) : Option (Nat × Nat) :=
  (List.range (text.size + 1 - start)).findSome? fun i =>
    (matchEnd? x text (start + i)).map fun e => (start + i, e)

/-- Replaces matches of a pattern: the first one, or all. The number bounds the matches. -/
def replaceMatches (x : Expr) (put : String → String) (all : Bool) (text : Array Char) : Nat → Nat → String
  | 0, start => String.ofList (text.toList.drop start)
  | n + 1, start =>
    match firstMatch? x text start with
    | none => String.ofList (text.toList.drop start)
    | some (i, e) =>
      let front := String.ofList ((text.toList.take i).drop start)
      let found := String.ofList ((text.toList.take e).drop i)
      let step := if e = i then String.ofList ((text.toList.drop e).take 1) else ""
      let next := if e = i then e + 1 else e
      if all && next ≤ text.size then
        front ++ put found ++ step ++ replaceMatches x put all text n next
      else front ++ put found ++ String.ofList (text.toList.drop e)

end LintGate.Sandbox.Tools
