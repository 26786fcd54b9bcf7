/-
Expanding words.

The characters of an expanded word remember whether they were quoted, because only
unquoted ones can be patterns. A word becomes any number of fields: unquoted values
are split at blank space, and the list of all arguments keeps its borders.
-/
import LintGate.Files.Tree
import LintGate.Sandbox.Shell.Syntax

set_option autoImplicit false

namespace LintGate.Sandbox.Shell

/-- Characters with the mark of those that were quoted. -/
abbrev Marked := List (Char × Bool)

/-- Marks the characters of a text. -/
def mark (s : String) (quoted : Bool) : Marked := s.toList.map fun c => (c, quoted)

/-- The text of marked characters. -/
def unmark (m : Marked) : String := String.ofList (m.map (·.1))

/-! ## Fields -/

/-- What a part of a word expands to. -/
inductive Chunk where
  | literal (m : Marked)
  /-- To be split at blank space. -/
  | loose (s : String)
  /-- Fields of their own. -/
  | fields (xs : List String)

/-- The fields that are done, and the one that is being made, if there is one. -/
structure Making where
  done : List Marked := []
  current : Option Marked := none

/-- Adds characters to the current field. -/
def Making.add (m : Making) (s : Marked) : Making := { m with current := some (m.current.getD [] ++ s) }

/-- Ends the current field. -/
def Making.close (m : Making) : Making := ⟨m.done ++ m.current.toList, none⟩

/-- Splits characters at blank space. -/
def Making.split (m : Making) (s : List Char) : Making :=
  s.foldl (fun m c => if c == ' ' || c == '\t' || c == '\n' then m.close else m.add [(c, false)]) m

/-- Adds fields of their own. The first joins the current one, and the last stays open. -/
def Making.addFields (m : Making) : List String → Making
  | [] => m
  | [x] => m.add (mark x true)
  | x :: rest => (m.add (mark x true)).close.addFields rest

/-- The fields of chunks. -/
def fieldsOf (chunks : List Chunk) : List Marked :=
  (chunks.foldl (fun m c =>
    match c with
    | .literal s => m.add s
    | .loose s => m.split s.toList
    | .fields xs => m.addFields xs) ({} : Making)).close.done

/-- The text of chunks where nothing is split. -/
def joined (chunks : List Chunk) : Marked :=
  chunks.flatMap fun
    | .literal s => s
    | .loose s => mark s false
    | .fields xs => mark (" ".intercalate xs) true

/-! ## Patterns -/

/-- Whether a character belongs to a set such as one writes between brackets. -/
def inClass (c : Char) : List Char → Bool
  | lo :: '-' :: hi :: rest => (lo ≤ c && c ≤ hi) || inClass c rest
  | d :: rest => c == d || inClass c rest
  | [] => false

/-- Whether a pattern matches a text as a whole. The number bounds the steps. -/
def globMatches : Nat → Marked → List Char → Bool
  | 0, _, _ => false
  | _ + 1, [], s => s.isEmpty
  | n + 1, ('*', false) :: rest, s =>
    globMatches n rest s || match s with
      | _ :: more => globMatches n (('*', false) :: rest) more
      | [] => false
  | n + 1, ('?', false) :: rest, s =>
    match s with
    | _ :: more => globMatches n rest more
    | [] => false
  | n + 1, ('[', false) :: rest, s =>
    let inside := (rest.takeWhile fun c => c.1 != ']').map (·.1)
    match rest.drop inside.length, s with
    | _ :: rest, c :: more =>
      let found :=
        match inside with
        | '!' :: set => !inClass c set
        | set => inClass c set
      found && globMatches n rest more
    | [], c :: more => c == '[' && globMatches n rest more
    | _, [] => false
  | n + 1, (c, _) :: rest, s =>
    match s with
    | d :: more => c == d && globMatches n rest more
    | [] => false

/-- Whether a pattern matches a text. -/
def matchesGlob (pattern : Marked) (s : String) : Bool :=
  globMatches (2 * (pattern.length + s.length) + 2) pattern s.toList

/-- Whether a field is a pattern of file names. -/
def isGlob (m : Marked) : Bool := m.any fun (c, q) => !q && (c == '*' || c == '?' || c == '[')

/-- The files that a field stands for. A pattern that matches none stands for itself. -/
def filesOf (disk : Folder) (cwd : String) (m : Marked) : List String :=
  if !isGlob m then [unmark m]
  else
    let name := (m.reverse.takeWhile fun c => c.1 != '/').reverse
    let dir := unmark (m.take (m.length - name.length))
    match disk.at? (Path.join cwd (if dir.isEmpty then "." else dir)) with
    | .ok (.folder f) =>
      let visible := (Folder.names f).filter fun n => !n.startsWith "." || (name.head?.map (·.1)) == some '.'
      match ((visible.filter (matchesGlob name)).mergeSort fun a b => !(b < a)).map (dir ++ ·) with
      | [] => [unmark m]
      | found => found
    | _ => [unmark m]

/-- The shortest or longest part at the front of a text that a pattern matches, by its length. -/
def matchedFront (pattern : Marked) (longest : Bool) (s : List Char) : Option Nat :=
  let lengths := List.range (s.length + 1)
  (if longest then lengths.reverse else lengths).find? fun n =>
    matchesGlob pattern (String.ofList (s.take n))

/-- A value without the part that a pattern matches at its front. -/
def dropFront (pattern : Marked) (longest : Bool) (s : String) : String :=
  match matchedFront pattern longest s.toList with
  | some n => String.ofList (s.toList.drop n)
  | none => s

/-- A value without the part that a pattern matches at its end. -/
def dropEnd (pattern : Marked) (longest : Bool) (s : String) : String :=
  let size := s.length
  let lengths := List.range (size + 1)
  match (if longest then lengths.reverse else lengths).find? fun n =>
      matchesGlob pattern (String.ofList (s.toList.drop (size - n))) with
  | some n => String.ofList (s.toList.take (size - n))
  | none => s

/-! ## Arithmetic -/

/-- The value of a text as an integer; what is none counts as zero. -/
def integerOf (s : String) : Int := s.trimAscii.toInt?.getD 0

/-- The operators of each level, from the loosest. -/
def levels : List (List String) :=
  [["||"], ["&&"], ["==", "!="], ["<=", ">=", "<", ">"], ["+", "-"], ["*", "/", "%"]]

/-- Applies an operator. -/
def applyOperator (op : String) (a b : Int) : Int :=
  let truth (p : Bool) : Int := if p then 1 else 0
  match op with
  | "||" => truth (a != 0 || b != 0)
  | "&&" => truth (a != 0 && b != 0)
  | "==" => truth (a == b)
  | "!=" => truth (a != b)
  | "<=" => truth (a ≤ b)
  | ">=" => truth (b ≤ a)
  | "<" => truth (a < b)
  | ">" => truth (b < a)
  | "+" => a + b
  | "-" => a - b
  | "*" => a * b
  | "/" => Int.tdiv a b
  | _ => Int.tmod a b

/-- Drops blank space in front. -/
def skipBlank (s : List Char) : List Char := s.dropWhile fun c => c == ' ' || c == '\t' || c == '\n'

mutual

/-- The value of an expression at a level, and what follows it. The number bounds the depth. -/
def evalLevel (value : String → String) : Nat → List (List String) → List Char → Int × List Char
  | 0, _, s => (0, s)
  | n + 1, [], s => evalAtom value n s
  | n + 1, ops :: deeper, s =>
    let (a, s) := evalLevel value n deeper s
    evalRest value n ops deeper a s

/-- What follows the first operand of a level. -/
def evalRest (value : String → String) :
    Nat → List String → List (List String) → Int → List Char → Int × List Char
  | 0, _, _, a, s => (a, s)
  | n + 1, ops, deeper, a, s =>
    let s := skipBlank s
    match markAt ops s with
    | some op =>
      let (b, s) := evalLevel value n deeper (s.drop op.length)
      evalRest value n ops deeper (applyOperator op a b) s
    | none => (a, s)

/-- The value of an operand. -/
def evalAtom (value : String → String) : Nat → List Char → Int × List Char
  | 0, s => (0, s)
  | n + 1, s =>
    match skipBlank s with
    | '(' :: rest =>
      let (a, rest) := evalLevel value n levels rest
      (a, (skipBlank rest).drop 1)
    | '-' :: rest => let (a, rest) := evalAtom value n rest; (-a, rest)
    | '+' :: rest => evalAtom value n rest
    | '!' :: rest => let (a, rest) := evalAtom value n rest; (if a = 0 then 1 else 0, rest)
    | '$' :: rest => evalAtom value n rest
    | c :: rest =>
      if c.isDigit then
        (integerOf (String.ofList ((c :: rest).takeWhile Char.isDigit)), (c :: rest).dropWhile Char.isDigit)
      else if startsName c then
        (integerOf (value (String.ofList ((c :: rest).takeWhile inName))), (c :: rest).dropWhile inName)
      else (0, c :: rest)
    | [] => (0, [])

end

/-- The value of an expression. -/
def arithmetic (value : String → String) (body : String) : Int :=
  (evalLevel value (8 * body.length + 16) levels body.toList).1

end LintGate.Sandbox.Shell
