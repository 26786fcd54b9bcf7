/-
A repository as a version control.

The gate's operations are made of a few simple ones: the staged changes are asked for,
the newest entry of the stash is looked up, the files that record a merge are read and
written, and all that changes the working tree is left to the repository's own tool.
The tool tells little, so what came of a call is found by looking at the stash before
and after.
-/
import LintGate.Files.Folder
import LintGate.Files.Path
import LintGate.Text.Blank
import LintGate.Text.Lines
import LintGate.VersionControl

set_option autoImplicit false

namespace LintGate

/-- A change that is staged. -/
structure StagedChange where
  kind : ChangeKind
  oldPath : String
  newPath : String
deriving DecidableEq, Repr

/-- How a run of the tool ended. -/
inductive ToolStatus where
  | exited (code : Nat)
  | killed (signal : Nat)
deriving DecidableEq, Repr

/-- What a run of the tool left. -/
structure ToolRun where
  status : ToolStatus
  out : Bytes := []
  err : Bytes := []

/-- A repository in a world. -/
structure Repository (σ : Type) where
  /-- The path of the working tree, with a bar at its end. -/
  root : String
  /-- The path of the directory in which the repository keeps its records, with a bar at its end. -/
  directory : String
  /-- That directory. -/
  place : Place σ
  /-- The staged changes, in the order of their paths. -/
  stagedChanges : StateM σ (Except VcsError (List StagedChange))
  /-- Whether there is a commit. -/
  hasCommits : StateM σ (Except VcsError Bool)
  /-- The newest entry of the stash. -/
  stashTop : StateM σ (Except VcsError (Option String))
  /-- Runs the tool in the working tree, or tells why it cannot be started. -/
  run : List String → StateM σ (Except String ToolRun)

namespace ToolStatus

/-- The names of the signals that end processes. -/
def signalNames : List (Nat × String) :=
  [(1, "SIGHUP"), (2, "SIGINT"), (3, "SIGQUIT"), (4, "SIGILL"), (5, "SIGTRAP"), (6, "SIGABRT"),
    (7, "SIGBUS"), (8, "SIGFPE"), (9, "SIGKILL"), (10, "SIGUSR1"), (11, "SIGSEGV"), (12, "SIGUSR2"),
    (13, "SIGPIPE"), (14, "SIGALRM"), (15, "SIGTERM")]

/-- How a status is told. -/
def text : ToolStatus → String
  | exited code => s!"exit status: {code}"
  | killed n =>
    match signalNames.lookup n with
    | some name => s!"signal: {n} (" ++ name ++ ")"
    | none => s!"signal: {n}"

end ToolStatus

namespace Repository

variable {σ : Type} (r : Repository σ)

/-! ## The tool -/

/-- The failure of a run of the tool. -/
def runFailure (args : List String) (t : ToolRun) : String :=
  let told := Text.trim (Bytes.lossyText t.err)
  "git " ++ " ".intercalate args ++ " exited with " ++ t.status.text
    ++ if told.isEmpty then "" else ": " ++ told

/-- Runs the tool for an operation and answers what it wrote. -/
def git (operation : String) (args : List String) : StateM σ (Except VcsError String) := do
  match ← r.run args with
  | .error reason => return .error ⟨operation, "failed to run git: " ++ reason⟩
  | .ok t =>
    if t.status = .exited 0 then return .ok (Text.trim (Bytes.lossyText t.out))
    else return .error ⟨operation, runFailure args t⟩

/-- The tool's answer, of which only the success counts. -/
def gitUnit (operation : String) (args : List String) : StateM σ (Except VcsError Unit) := do
  return (← r.git operation args).map fun _ => ()

/-! ## Staged changes -/

/-- The staged paths of some kinds. -/
def stagedPaths (filter : ChangeFilter) : StateM σ (Except VcsError (List String)) := do
  return (← r.stagedChanges).map fun cs => (cs.filter fun c => filter.contains c.kind).map (·.newPath)

/-- The staged renames. -/
def stagedRenames : StateM σ (Except VcsError (List Rename)) := do
  return (← r.stagedChanges).map fun cs =>
    (cs.filter fun c => c.kind == .renamed).map fun c => ⟨c.oldPath, c.newPath⟩

/-! ## Holding frames -/

/-- The arguments that set changes aside. -/
def saveArgs (label : String) (keepIndex : Bool) : List String :=
  ["stash", "push", "--quiet"] ++ (if keepIndex then ["--keep-index"] else []) ++ ["--message", label]

/-- The frame that was made between two looks at the stash. -/
def newFrame (label : String) (before after : Option String) : Option Frame :=
  match after with
  | some id => if before == some id then none else some ⟨id, label⟩
  | none => none

/-- What came of setting changes aside. A call that fails may still have made a frame. -/
def saved (label : String) (before : Option String) :
    Except VcsError String → Except VcsError (Option String) → Except SaveError (Option Frame)
  | .ok _, .ok after => .ok (newFrame label before after)
  | .ok _, .error e => .error ⟨e, none⟩
  | .error e, .ok after => .error ⟨e, newFrame label before after⟩
  | .error e, .error _ => .error ⟨e, none⟩

/-- Sets changes aside. -/
def saveFrame (label : String) (keepIndex : Bool) : StateM σ (Except SaveError (Option Frame)) := do
  match ← r.stashTop with
  | .error e => return .error ⟨e, none⟩
  | .ok before =>
    let pushed ← r.git "create holding frame" (saveArgs label keepIndex)
    return saved label before pushed (← r.stashTop)

/-- Brings changes back. -/
def applyFrame (frame : Frame) : StateM σ (Except VcsError Unit) :=
  r.gitUnit "apply holding frame" ["stash", "apply", "--index", "--quiet", frame.id]

/-- The name of the stash entry at a position. -/
def entryName (position : Nat) : String := s!"stash@\x7b{position}\x7d"

/-- Forgets a frame. Frames are known by their ids, and the tool wants a position. -/
def dropFrame (frame : Frame) : StateM σ (Except VcsError Unit) := do
  match ← r.git "list holding frames" ["stash", "list", "--format=%H"] with
  | .error e => return .error e
  | .ok listing =>
    match (Text.shownLines listing).idxOf? frame.id with
    | none => return .error ⟨"drop holding frame", "stash entry " ++ frame.id ++ " not found"⟩
    | some position => r.gitUnit "drop holding frame" ["stash", "drop", "--quiet", entryName position]

/-- The frame on a line of a listing, if it has one of the labels. -/
def frameOfLine? (labels : List String) (line : String) : Option Frame :=
  match line.toList.dropWhile (· != ' ') with
  | [] => none
  | _ :: subject =>
    let subject := String.ofList subject
    (labels.find? fun l => subject.endsWith (": " ++ l)).map fun l =>
      ⟨String.ofList (line.toList.takeWhile (· != ' ')), l⟩

/-- The frames under labels. -/
def heldFrames (labels : List String) : StateM σ (Except VcsError (List Frame)) := do
  return (← r.git "list holding frames" ["stash", "list", "--format=%H %s"]).map fun listing =>
    (Text.shownLines listing).filterMap (frameOfLine? labels)

/-! ## The record of a merge -/

/-- Reads a file of the record, if it is there. -/
def readRecord (name : String) : StateM σ (Except VcsError (Option Bytes)) := do
  match ← r.place.read name with
  | .ok content => return .ok (some content)
  | .error .notFound => return .ok none
  | .error e =>
    return .error ⟨"read merge state", "failed to read " ++ Path.join r.directory name ++ ": " ++ e.text⟩

/-- Reads the record of a merge. Without its head there is no merge. -/
def readMergeState : StateM σ (Except VcsError (Option MergeState)) := do
  match ← r.readRecord "MERGE_HEAD" with
  | .error e => return .error e
  | .ok none => return .ok none
  | .ok (some head) =>
    match ← r.readRecord "MERGE_MSG" with
    | .error e => return .error e
    | .ok message =>
      match ← r.readRecord "MERGE_MODE" with
      | .error e => return .error e
      | .ok mode => return .ok (some ⟨head, message, mode⟩)

/-- Writes a file of the record. -/
def writeRecord (name : String) (content : Bytes) : StateM σ (Except VcsError Unit) := do
  match ← r.place.attempt fun f => f.write name content with
  | .ok () => return .ok ()
  | .error e =>
    return .error ⟨"restore merge state",
      "failed to write " ++ Path.join r.directory name ++ ": " ++ e.text⟩

/-- Writes files of the record in order, up to the first that cannot be written. -/
def writeRecords : List (String × Bytes) → StateM σ (Except VcsError Unit)
  | [] => return .ok ()
  | (name, content) :: rest => do
    match ← r.writeRecord name content with
    | .error e => return .error e
    | .ok () => writeRecords rest

/-- The files of a record. -/
def recordFiles (m : MergeState) : List (String × Bytes) :=
  (m.mode.map fun b => ("MERGE_MODE", b)).toList ++ ("MERGE_HEAD", m.head)
    :: (m.message.map fun b => ("MERGE_MSG", b)).toList

/-- A repository as a version control. -/
def versionControl : VersionControl σ where
  stagedPaths := r.stagedPaths
  stagedRenames := r.stagedRenames
  hasCommits := r.hasCommits
  saveFrame := r.saveFrame
  applyFrame := r.applyFrame
  dropFrame := r.dropFrame
  heldFrames := r.heldFrames
  readMergeState := r.readMergeState
  writeMergeState m := r.writeRecords (recordFiles m)

end Repository

end LintGate
