/-
Rehearsals: runs against collaborators that follow a script.

The scripted version control knows three trees: the full one, the staged one
without unstaged changes, and the baseline. Each of its calls has a name; the script
tells which calls fail, which of the failing ones record a frame all the same, and
which have nothing to record. The scripted linter answers by tree and path.
-/
import LintGate.Session
import LintGate.Files.Folder

set_option autoImplicit false

namespace LintGate.Rehearsal

/-- What the working tree holds. -/
inductive Tree where
  | full
  | staged
  | baseline
deriving DecidableEq, Repr

/-- What the scripted linter does on a file. -/
inductive Reply where
  | answer (result : LintResult)
  | crash (message : String)
  | fatal (message : String)
deriving DecidableEq, Repr

/-- What the collaborators will do. -/
structure Plan where
  staged : List (ChangeKind × String) := []
  renames : List Rename := []
  hasCommits : Bool := true
  /-- The calls that fail, with the messages. -/
  failing : List (String × String) := []
  /-- The failing calls that record a frame first. -/
  held : List String := []
  /-- The calls that find nothing to record. -/
  empty : List String := []
  replies : List (Tree × List (String × Reply)) := []
  /-- The endings of the files that have a linter. -/
  handled : List String := [".js"]

/-- The state of a rehearsal. -/
structure Stage where
  plan : Plan := {}
  tree : Tree := .full
  frames : List Frame := []
  merge : Option MergeState := none
  recorded : Nat := 0
  linted : List (Tree × String × Option String) := []
  /-- The directory of the log or of the lock, if there is one. -/
  folder : Option Folder := some []

/-- The directory of a rehearsal. -/
def place : Place Stage := ⟨(·.folder), fun f s => { s with folder := some f }⟩

/-! ## The names of calls -/

/-- The name of an event that is a call of the version control. -/
def callName? : Event → Option String
  | .stagedPaths filter _ => some ("staged_paths " ++ filter.codes)
  | .stagedRenames _ => some "staged_renames"
  | .hasCommits _ => some "has_commits"
  | .saveFrame label _ _ => some ("save " ++ label)
  | .applyFrame frame _ => some ("apply " ++ frame.label)
  | .dropFrame frame _ => some ("drop " ++ frame.label)
  | .heldFrames labels _ => some ("held_frames " ++ ", ".intercalate labels)
  | .readMergeState _ => some "read merge state"
  | .writeMergeState _ _ => some "write merge state"
  | _ => none

/-! ## The scripted version control -/

/-- A call that fails if the plan says so. -/
def scripted {α : Type} (call operation : String) (act : StateM Stage α) :
    StateM Stage (Except VcsError α) := do
  match (← get).plan.failing.lookup call with
  | some message => return .error ⟨operation, message⟩
  | none => return .ok (← act)

/-- Takes the changes out of the tree. -/
def Tree.without (t : Tree) (keepIndex : Bool) : Tree :=
  match keepIndex, t with
  | true, full => staged
  | true, other => other
  | false, _ => baseline

/-- Records a frame, or nothing if the plan says that there is nothing to record. -/
def record (label : String) (keepIndex : Bool) : StateM Stage (Option Frame) := do
  let s ← get
  let s := { s with tree := s.tree.without keepIndex }
  if s.plan.empty.contains ("save " ++ label) then
    set s
    return none
  else
    let frame : Frame := ⟨s!"frame-{s.recorded}", label⟩
    set { s with merge := none, frames := s.frames ++ [frame], recorded := s.recorded + 1 }
    return some frame

/-- Records a frame, with the failures of the plan. -/
def save (label : String) (keepIndex : Bool) : StateM Stage (Except SaveError (Option Frame)) := do
  let plan := (← get).plan
  let call := "save " ++ label
  match plan.failing.lookup call with
  | none => return .ok (← record label keepIndex)
  | some message =>
    let error : VcsError := ⟨"create holding frame", message⟩
    if plan.held.contains call then
      match ← record label keepIndex with
      | none => return .ok none
      | some frame => return .error ⟨error, some frame⟩
    else return .error ⟨error, none⟩

/-- The version control that follows the plan. -/
def versionControl : VersionControl Stage where
  stagedPaths filter :=
    scripted ("staged_paths " ++ filter.codes) "diff staged changes" do
      return ((← get).plan.staged.filter fun e => filter.contains e.1).map (·.2)
  stagedRenames := scripted "staged_renames" "diff staged changes" do return (← get).plan.renames
  hasCommits := scripted "has_commits" "read HEAD" do return (← get).plan.hasCommits
  saveFrame := save
  applyFrame frame :=
    scripted ("apply " ++ frame.label) "apply holding frame" do
      modify fun s => { s with tree := .full }
  dropFrame frame :=
    scripted ("drop " ++ frame.label) "drop holding frame" do
      modify fun s => { s with frames := s.frames.filter fun f => f.id != frame.id }
  heldFrames labels :=
    scripted ("held_frames " ++ ", ".intercalate labels) "list holding frames" do
      return ((← get).frames.filter fun f => labels.contains f.label).reverse
  readMergeState := scripted "read merge state" "read merge state" do return (← get).merge
  writeMergeState merge :=
    scripted "write merge state" "restore merge state" do
      modify fun s => { s with merge := some merge }

/-! ## The scripted linter -/

/-- What the plan has for a file in a tree. -/
def Plan.reply? (plan : Plan) (tree : Tree) (path : String) : Option Reply :=
  (plan.replies.lookup tree).bind fun rs => rs.lookup path

/-- The linter that follows a plan. -/
def linter (plan : Plan) : Linter Stage where
  lint path mode := do
    let s ← get
    set { s with linted := s.linted ++ [(s.tree, path, mode)] }
    match s.plan.reply? s.tree path with
    | some (.answer result) => return .ok (some result)
    | some (.crash message) => return .error (.crash "fake" path message)
    | some (.fatal message) => return .error (.config message)
    | none => return .ok none
  handles path _ := plan.handled.any fun ending => path.endsWith ending

end LintGate.Rehearsal
