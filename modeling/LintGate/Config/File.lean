/-
Finding and reading the configuration.

A path that is given must lead to a file. Otherwise the file at the root of the
repository is looked for, then the one of the user; without either the standard
configuration is in force.
-/
import LintGate.Config.Format
import LintGate.Files.Tree

set_option autoImplicit false

namespace LintGate

/-- Why there is no configuration. -/
inductive ConfigError where
  | missing (path : String)
  | unreadable (path : String) (fault : Fault)
  | unparsable (path : String) (problem : Json.Problem)
deriving DecidableEq, Repr

/-- The text of an error. -/
def ConfigError.text : ConfigError → String
  | missing path => "configuration file " ++ path ++ " not found"
  | unreadable path fault => "failed to read " ++ path ++ ": " ++ fault.text
  | unparsable path problem =>
    "failed to parse " ++ path ++ ": " ++ problem.text
      ++ " (make sure it's valid JSON, or remove it to use the defaults)"

/-- Where a user keeps files. -/
structure UserPlaces where
  home : Option String := none
  /-- The directory for configurations, if the user chose one. -/
  configHome : Option String := none

/-- The user's directory for configurations. Only an absolute choice counts. -/
def UserPlaces.configDirectory? (u : UserPlaces) : Option String :=
  match u.configHome.filter Path.isAbsolute with
  | some chosen => some chosen
  | none => u.home.map (Path.join · ".config")

namespace Config

/-- The configuration in the bytes of a file. -/
def ofBytes (path : String) (content : Bytes) : Except ConfigError Config :=
  match Bytes.text? content with
  | none => .error (.unreadable path .notText)
  | some s =>
    match ofText s with
    | .ok config => .ok { config with source := some path }
    | .error p => .error (.unparsable path p)

/-- Reads the configuration from a file. A path that is not absolute is seen from a directory. -/
def ofFile (disk : Folder) (cwd path : String) : Except ConfigError Config :=
  match disk.readAt (Path.join cwd path) with
  | .ok content => ofBytes path content
  | .error fault => .error (.unreadable path fault)

/-- Where a configuration is looked for, the most specific place first. -/
def candidates (user : UserPlaces) (root : String) : List String :=
  Path.join root ".difflintrc" ::
    match user.configDirectory? with
    | some dir => [Path.join (Path.join dir "difflint") "difflintrc"]
    | none => []

/-- Finds and reads the configuration of a repository. -/
def load (disk : Folder) (cwd : String) (user : UserPlaces) (explicit : Option String) (root : String) :
    Except ConfigError Config :=
  let isThere (path : String) : Bool := disk.isFileAt (Path.join cwd path)
  match explicit with
  | some path => if isThere path then ofFile disk cwd path else .error (.missing path)
  | none =>
    match (candidates user root).find? isThere with
    | some path => ofFile disk cwd path
    | none => .ok standard

end Config

end LintGate
