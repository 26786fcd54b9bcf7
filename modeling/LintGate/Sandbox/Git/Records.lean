/-
The records of a version control.

They lie in a directory of the working tree: which branch is checked out, where the
branches stand, the index of what is staged, and the stash. They are files like all
others, so that they can be lost or damaged.
-/
import LintGate.Sandbox.Git.Snapshot
import LintGate.Text.Lines

set_option autoImplicit false

namespace LintGate.Sandbox

/-! ## Actions -/

/-- An action of the version control. It may end with what a failing process leaves. -/
abbrev GitAct := ExceptT Result (StateM Machine)

namespace GitAct

/-- Ends a process for good. -/
def die {α : Type} (message : String) : GitAct α := throw (.failure 128 ("fatal: " ++ message ++ "\n"))

/-- Ends a process with a failure. -/
def fail {α : Type} (message : String) : GitAct α := throw (.failure 1 message)

end GitAct

/-! ## Where the records lie -/

/-- Where a repository lies. -/
structure Site where
  /-- The way to the working tree. -/
  root : List String
  /-- The way to the records. -/
  dir : List String
  bare : Bool
deriving DecidableEq, Repr

/-- The path at the end of a way. -/
def pathOf (steps : List String) : String := "/" ++ "/".intercalate steps

/-- What a record of a branch says. -/
inductive RefText where
  | id (commit : String)
  | link (target : String)
  | broken
deriving DecidableEq, Repr

/-- A text without blanks at its end. -/
def withoutTail (s : String) : String :=
  String.ofList (s.toList.reverse.dropWhile fun c => c == ' ' || c == '\n' || c == '\t' || c == '\r').reverse

/-- Whether a character is a digit of an id. -/
def isIdDigit (c : Char) : Bool := c.isDigit || ('a' ≤ c && c ≤ 'f') || ('A' ≤ c && c ≤ 'F')

/-- Whether a text is an id. -/
def isId (s : String) : Bool := s.length = 40 && s.toList.all isIdDigit

/-- What the text of a record says. -/
def refText (s : String) : RefText :=
  if s.startsWith "ref:" then .link (withoutTail (String.ofList ((s.toList.drop 4).dropWhile (· == ' '))))
  else
    let word := s.toList.take 40
    let rest := s.toList.drop 40
    if isId (String.ofList word) &&
        (rest.isEmpty || rest.head?.any fun c => c == ' ' || c == '\n' || c == '\r' || c == '\t')
    then .id (String.ofList word).toLower
    else .broken

/-- Whether a folder holds records. -/
def holdsRecords (f : Folder) : Bool :=
  let isFolder (name : String) : Bool := match f.get? name with | some (.folder _) => true | _ => false
  isFolder "objects" && isFolder "refs" && (f.read "HEAD").toOption.isSome

/-- Whether the record of what is checked out makes sense. -/
def hasSoundHead (f : Folder) : Bool :=
  match f.read "HEAD" with
  | .ok content =>
    match refText (Bytes.lossyText content) with
    | .id _ => true
    | .link target => target.startsWith "refs/"
    | .broken => false
  | .error _ => false

/-- Whether records say that there is no working tree. -/
def saysBare (f : Folder) : Bool :=
  match f.read "config" with
  | .ok content => (Text.pieces (Bytes.lossyText content)).any fun l =>
      (l.toList.filter fun c => c != ' ' && c != '\t') == "bare=true".toList
  | .error _ => false

/-- The repository of a directory itself. -/
def siteAt? (test : Folder → Bool) (disk : Folder) (steps : List String) : Option Site :=
  match disk.folderAt? (steps ++ [recordsName]), disk.folderAt? steps with
  | some f, _ => if test f then some ⟨steps, steps ++ [recordsName], saysBare f⟩ else own
  | none, _ => own
where
  /-- The repository whose records a directory holds itself. -/
  own : Option Site :=
    match disk.folderAt? steps with
    | some f =>
      if test f then
        if steps.getLast? == some recordsName && !saysBare f then some ⟨steps.dropLast, steps, false⟩
        else some ⟨steps, steps, true⟩
      else none
    | none => none

/-- A way and all the ways that it goes through, the longest first. -/
def ways (steps : List String) : List (List String) :=
  (List.range (steps.length + 1)).map fun n => steps.take (steps.length - n)

/-- The repository of the nearest directory that has one. -/
def findSite (test : Folder → Bool) (disk : Folder) (cwd : String) : Option Site :=
  (ways (Path.steps cwd)).findSome? (siteAt? test disk)

/-! ## Files of the records -/

namespace Site

variable (s : Site)

/-- The path of a record. -/
def path (name : String) : String := Path.join (pathOf s.dir) name

/-- The text of a record, if it is there. -/
def text? (name : String) (disk : Folder) : Option String :=
  (disk.readAt (s.path name)).toOption.map Bytes.lossyText

/-- Writes a record. -/
def write (name content : String) : GitAct Unit :=
  modify fun m => m.write (s.path name) (Bytes.ofText content) false

/-- Removes a record, if it is there. -/
def forget (name : String) : GitAct Unit :=
  modify fun m => m.edit (·.removeAt (Path.steps (s.path name)))

/-! ## Branches -/

/-- Where a branch stands. -/
inductive Standing where
  | missing
  | broken
  | commit (id : String)
deriving DecidableEq, Repr

/-- Follows a record of a branch. The number bounds the links. -/
def follow (disk : Folder) : Nat → String → Standing
  | 0, _ => .broken
  | n + 1, name =>
    match disk.at? (s.path name) with
    | .ok (.file content _) =>
      match refText (Bytes.lossyText content) with
      | .id id => .commit id
      | .link target => follow disk n target
      | .broken => .broken
    | _ => .missing

/-- Where a branch stands. -/
def standing (disk : Folder) (name : String) : Standing := s.follow disk 6 name

/-- What is checked out. -/
def head (disk : Folder) : Standing := s.standing disk "HEAD"

/-- The record of the branch that is checked out, unless none is. -/
def branchRecord? (disk : Folder) : Option String :=
  match (s.text? "HEAD" disk).map refText with
  | some (.link target) => some target
  | _ => none

/-- The name of the branch that is checked out. -/
def branchName (disk : Folder) : String :=
  match s.branchRecord? disk with
  | some target => if target.startsWith "refs/heads/" then (target.drop 11).toString else target
  | none => "(no branch)"

/-- The commit of an id. -/
def commitOf? (m : Machine) (id : String) : Option Commit := m.commits.find? fun c => c.id == id

/-- The commit that is checked out. -/
def headCommit? (m : Machine) : Option Commit :=
  match s.head m.disk with
  | .commit id => commitOf? m id
  | _ => none

/-- The files of the commit that is checked out. -/
def headFiles (m : Machine) : Snapshot := ((s.headCommit? m).map (·.files)).getD []

/-- Lets what is checked out stand at a commit. -/
def moveHead (id : String) : GitAct Unit := do
  match s.branchRecord? (← get).disk with
  | some target => s.write target (id ++ "\n")
  | none => s.write "HEAD" (id ++ "\n")

/-! ## The stash -/

/-- The newest entry of the stash. -/
def stashTop (disk : Folder) : Standing := s.standing disk "refs/stash"

/-- The lines of the stash's record, the oldest first. -/
def stashLines (disk : Folder) : List String :=
  match s.stashTop disk with
  | .commit _ => (Text.pieces ((s.text? "logs/refs/stash" disk).getD "")).filter (· != "")
  | _ => []

/-- The ids of the stash's entries, the newest first. -/
def stashIds (disk : Folder) : List String :=
  (s.stashLines disk).reverse.map fun l => ((l.splitOn " ")[1]?).getD ""

/-- Records stash entries. -/
def setStash (lines : List String) : GitAct Unit := do
  match lines.getLast? with
  | none =>
    s.forget "refs/stash"
    s.forget "logs/refs/stash"
  | some newest =>
    s.write "refs/stash" (((newest.splitOn " ")[1]?).getD "" ++ "\n")
    s.write "logs/refs/stash" (String.join (lines.map (· ++ "\n")))

/-- The line of a stash entry. -/
def stashLine (id subject : String) : String :=
  String.ofList (List.replicate 40 '0') ++ " " ++ id ++ " T <t@example.com> 0 +0000\t" ++ subject

end Site

/-! ## Commits -/

/-- The id of the next commit. -/
def nextId (m : Machine) : String :=
  let digits := String.ofList (Nat.toDigits 16 (m.commits.length + 1))
  "c" ++ String.ofList (List.replicate (39 - digits.length) '0') ++ digits

/-- Stores a commit. -/
def store (parents : List String) (message : String) (files : Snapshot) : GitAct String := do
  let m ← get
  let id := nextId m
  set { m with commits := ⟨id, parents, message, files⟩ :: m.commits }
  return id

/-- The subject of a message: its first lines up to an empty one, as one line. -/
def subjectOf (message : String) : String :=
  let lines := (Text.pieces message).map withoutTail
  " ".intercalate ((lines.dropWhile (· == "")).takeWhile (· != ""))

end LintGate.Sandbox
