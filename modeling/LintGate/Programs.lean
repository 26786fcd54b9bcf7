/-
Finding programs.

There are two ways to ask for a program. A process that is started under a name with
a bar takes the name as a path from its own directory; any other name is looked for
in the directories of the search path, and the file found must be one that can be
started. Before a run one can look a name up without starting anything. The two agree
on most names, and both are stated here so that they can be compared.
-/
import LintGate.Files.Tree

set_option autoImplicit false

namespace LintGate.Programs

/-! ## Images -/

/-- The text in front of the programs that are part of the machine. -/
def builtinMark : Bytes := [0x7f, 0x45, 0x4c, 0x46]

/-- A program that is part of the machine. -/
def builtin (name : String) : Entry := .file (builtinMark ++ Bytes.ofText name) true

/-- What a program's file asks for. -/
inductive Image where
  /-- A program that is part of the machine. -/
  | builtin (name : String)
  /-- A script for an interpreter, with an argument for it. -/
  | script (interpreter : String) (argument : Option String) (path : String)
deriving DecidableEq, Repr

/-- The first line of a script, without its mark. -/
def firstLine (content : Bytes) : String :=
  Bytes.lossyText ((content.drop 2).takeWhile (· != 0x0a))

/-- What the bytes of a program's file ask for. -/
def imageOf (path : String) (content : Bytes) : Except Fault Image :=
  if builtinMark.isPrefixOf content then .ok (.builtin (Bytes.lossyText (content.drop 4)))
  else if content.take 2 = [0x23, 0x21] then
    let line := (firstLine content).toList.dropWhile (fun c => c == ' ' || c == '\t')
    let interpreter := line.takeWhile fun c => c != ' ' && c != '\t'
    let rest := String.ofList ((line.drop interpreter.length).dropWhile fun c => c == ' ' || c == '\t')
    let argument := rest.trimAsciiEnd.toString
    .ok (.script (String.ofList interpreter) (if argument.isEmpty then none else some argument) path)
  else .error .execFormat

/-- The image at a path. Only files that may be executed are programs, and the interpreter of a script
must be one of the machine's programs. -/
def imageAt (disk : Folder) (path : String) : Except Fault Image := do
  match ← disk.at? path with
  | .folder _ => .error .denied
  | .file _ false => .error .denied
  | .file content true =>
    match ← imageOf path content with
    | .builtin name => .ok (.builtin name)
    | .script interpreter argument path =>
      match ← disk.at? interpreter with
      | .folder _ => .error .denied
      | .file _ executable =>
        if executable then .ok (.script interpreter argument path) else .error .denied

/-- The image of a name in directories, one after the other. That a file may not be executed is told
only if no other directory has the program. -/
def searchImage (disk : Folder) (name : String) : Fault → List String → Except Fault Image
  | fault, [] => .error fault
  | fault, dir :: rest =>
    match imageAt disk (Path.join dir name) with
    | .error .notFound => searchImage disk name fault rest
    | .error .notDirectory => searchImage disk name fault rest
    | .error .denied => searchImage disk name .denied rest
    | answer => answer

/-- The image that a process starts under a name. A name with a bar is a path. -/
def findImage (disk : Folder) (cwd : String) (searched : List String) (name : String) :
    Except Fault Image :=
  if name.isEmpty then .error .notFound
  else if name.toList.contains '/' then imageAt disk (Path.join cwd name)
  else searchImage disk name .notFound searched

/-! ## Looking programs up -/

/-- Whether a path leads to a file that may be executed. -/
def isProgramAt (disk : Folder) (path : String) : Bool :=
  match disk.at? path with
  | .ok (.file _ executable) => executable
  | _ => false

/-- The number of parts of a path, the root and a dot in front among them. -/
def partCount (path : String) : Nat :=
  let leading := if Path.isAbsolute path || path == "." || path.startsWith "./" then 1 else 0
  leading + (Path.steps path).length

/-- Whether a program can be found under a name. A name of several parts is a path, as seen from a
directory; any other is looked for in directories. -/
def isFound (disk : Folder) (cwd : String) (searched : List String) (name : String) : Bool :=
  if 1 < partCount name then isProgramAt disk (Path.join cwd name)
  else searched.any fun dir => isProgramAt disk (Path.join dir name)

end LintGate.Programs
