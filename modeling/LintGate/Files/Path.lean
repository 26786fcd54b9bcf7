/-
Paths.

A path is a text whose parts are separated by bars. Joining is textual and nothing
is resolved by it: a path that begins with a bar stands for itself wherever it is
joined.
-/

set_option autoImplicit false

namespace LintGate.Path

/-- The parts of a text between its bars; there is always at least one. -/
def splitBars : List Char → List (List Char)
  | [] => [[]]
  | c :: rest =>
    if c = '/' then [] :: splitBars rest
    else
      match splitBars rest with
      | [] => [[c]]
      | part :: parts => (c :: part) :: parts

/-- The parts of a path that move: empty ones and single dots stay where they are. -/
def steps (path : String) : List String :=
  ((splitBars path.toList).map String.ofList).filter fun p => p != "" && p != "."

/-- Whether a path starts at the root of all files. -/
def isAbsolute (path : String) : Bool := path.toList.head? == some '/'

/-- Whether the last part of a path is one to be a directory. -/
def isDirectoryLike (path : String) : Bool :=
  match (splitBars path.toList).getLast? with
  | some last => last.isEmpty || last == ['.'] || last == ['.', '.']
  | none => true

/-- A path below another. -/
def join (base child : String) : String :=
  if isAbsolute child || base.isEmpty then child
  else if base.toList.getLast? == some '/' then base ++ child
  else base ++ "/" ++ child

/-- The last part of a path, unless it leads upwards or there is none. -/
def fileName? (path : String) : Option String :=
  match (steps path).getLast? with
  | some last => if last == ".." then none else some last
  | none => none

/-- The part of a name after its last dot. A dot in front of everything else does not count. -/
def extensionOf? (name : List Char) : Option String :=
  let ending := (name.reverse.takeWhile (· != '.')).reverse
  if ending.length + 1 < name.length then some (String.ofList ending) else none

/-- The extension of the file that a path names. -/
def extension? (path : String) : Option String := (fileName? path).bind fun n => extensionOf? n.toList

end LintGate.Path
