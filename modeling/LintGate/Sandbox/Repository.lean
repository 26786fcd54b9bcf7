/-
The repository of a sandbox, and the gate in it.

What the gate asks a repository is answered from the records on the sandbox's disk;
what changes the working tree is done by the program that the search path has under the
tool's name.
-/
import LintGate.Invocation
import LintGate.Sandbox.System

set_option autoImplicit false

namespace LintGate.Sandbox

/-- The directory of a machine at the end of a way. -/
def placeOf (steps : List String) : Place Machine := Place.below (·.disk) (fun disk m => { m with disk }) steps

namespace Site

variable (s : Site)

/-- The path of the working tree, with a bar at its end. -/
def rootPath : String := pathOf s.root ++ "/"

/-- What is staged, as the gate's queries see it: a file that is only listed counts as empty, and one in
conflict is left out on both sides. -/
def stagedView (index : Index) (head : Snapshot) : Snapshot × Snapshot :=
  let unmerged := (index.filter (·.unmerged)).map (·.path)
  let settled := index.filter fun e => !e.unmerged
  (head.filter fun e => !unmerged.contains e.1, settled.map fun e => (e.path, e.blob))

/-- The failure to read the index. -/
def indexError (m : Machine) : VcsError :=
  let message :=
    match m.indexFile with
    | some name => "failed to open " ++ Path.join s.rootPath name ++ ": invalid data in index"
    | none => "failed to get git index: invalid data in index"
  ⟨"read index", message⟩

/-- The changes of the index against a snapshot. -/
def changesAgainst (m : Machine) (head : Snapshot) : Except VcsError (List StagedChange) :=
  match s.readIndex m with
  | .error _ => .error (s.indexError m)
  | .ok index =>
    let (old, new) := stagedView index head
    .ok (Sandbox.stagedChanges old new)

/-- The staged changes of a repository. -/
def stagedChanges (m : Machine) : Except VcsError (List StagedChange) :=
  match s.head m.disk with
  | .missing => s.changesAgainst m []
  | .broken => .error ⟨"diff staged changes", "failed to get HEAD: corrupted loose reference file"⟩
  | .commit id =>
    match commitOf? m id with
    | none => .error ⟨"diff staged changes", "failed to get tree: object not found"⟩
    | some c => s.changesAgainst m c.files

/-- Whether a repository has a commit. -/
def hasCommits (m : Machine) : Except VcsError Bool :=
  match s.head m.disk with
  | .missing => .ok false
  | .broken => .error ⟨"read HEAD", "corrupted loose reference file"⟩
  | .commit _ => .ok true

/-- The newest entry of the stash. -/
def newestEntry (m : Machine) : Except VcsError (Option String) :=
  match s.stashTop m.disk with
  | .missing => .ok none
  | .broken => .error ⟨"read stash", "corrupted loose reference file"⟩
  | .commit id => .ok (some id)

/-- Runs the tool in the working tree. -/
def runTool (args : List String) : StateM Machine (Except String ToolRun) := do
  if args.any fun a => a.toList.contains '\x00' then return .error "nul byte found in provided data"
  else
    match ← execute { words := "git" :: args, cwd := pathOf s.root, environment := standardEnvironment } with
    | .error fault => return .error fault.text
    | .ok r =>
      let status : ToolStatus :=
        match r.status with
        | .exit code => .exited code
        | .signal n => .killed n
      return .ok ⟨status, r.out, r.err⟩

/-- A site as a repository. -/
def repository : Repository Machine where
  root := s.rootPath
  directory := pathOf s.dir ++ "/"
  place := placeOf s.dir
  stagedChanges := do return s.stagedChanges (← get)
  hasCommits := do return s.hasCommits (← get)
  stashTop := do return s.newestEntry (← get)
  run := s.runTool

end Site

/-- The repository that a directory of a sandbox belongs to. -/
def openRepository (cwd : String) (m : Machine) : Except VcsError (Repository Machine) :=
  match findSite holdsRecords m.disk cwd with
  | none => .error ⟨"open repository", "not in a git repository: could not find repository at '.'"⟩
  | some s =>
    if s.bare then .error ⟨"open repository", "bare repositories have no working tree"⟩
    else .ok s.repository

/-- The number of the process of the gate. -/
def gateProcess : Nat := 4321

/-- What is around an invocation in a directory of a sandbox. -/
def surroundings (cwd time : String) : Surroundings Machine where
  cwd := cwd
  user := ⟨some home, none⟩
  disk := (·.disk)
  isFound m := hasProgram m cwd
  openRepository := openRepository cwd
  host dir := host (pathOf (Path.steps dir))
  place path := placeOf (Path.steps path)
  self := gateProcess
  alive pid := pid = 1 || pid = gateProcess
  time := time

end LintGate.Sandbox
