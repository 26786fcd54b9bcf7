/-
The command line.

Flags and settings may come in any order, each at most once. A setting takes its
value from behind an equals sign or from the next word, unless that looks like an
option itself. There are no other arguments.
-/

set_option autoImplicit false

namespace LintGate

/-- What the command line asks for. -/
structure CommandLine where
  check : Bool := false
  config : Option String := none
  mode : Option String := none
  reject : Bool := false
  verbose : Bool := false
deriving DecidableEq, Repr

namespace CommandLine

/-- Why a command line is not carried out. -/
inductive Refusal where
  | unknownArgument
  | repeated
  | invalidValue
  | unwantedValue
  | help
deriving DecidableEq, Repr

/-- An option without a value. -/
inductive Flag where
  | check
  | reject
  | verbose
  | help
deriving DecidableEq, Repr

/-- An option with a value. -/
inductive Setting where
  | config
  | mode
deriving DecidableEq, Repr

/-! ## Names -/

/-- The flag of a long name. -/
def flag? (name : List Char) : Option Flag :=
  [("check", Flag.check), ("reject", .reject), ("verbose", .verbose), ("help", .help)].lookup
    (String.ofList name)

/-- The flag of a letter. -/
def letter? : Char → Option Flag
  | 'v' => some .verbose
  | 'h' => some .help
  | _ => none

/-- The setting of a long name. -/
def setting? (name : List Char) : Option Setting :=
  [("config", Setting.config), ("mode", .mode)].lookup (String.ofList name)

/-- A word taken apart. -/
inductive Word where
  | long (name : List Char) (value : Option String)
  | short (letters : List Char)
  | plain (text : String)

/-- Takes a word apart. A single dash is plain. -/
def Word.ofText (s : String) : Word :=
  match s.toList with
  | '-' :: '-' :: rest =>
    match rest.dropWhile (· != '=') with
    | [] => long rest none
    | _ :: value => long (rest.takeWhile (· != '=')) (some (String.ofList value))
  | '-' :: c :: rest => short (c :: rest)
  | _ => plain s

/-! ## Reading -/

/-- What was read so far: what it asks for, and a setting that waits, with its value if that came as a
word of its own. -/
structure Progress where
  asked : CommandLine := {}
  waiting : Option (Setting × Option String) := none

/-- Raises a flag, which must not be up. -/
def raise (f : Flag) (c : CommandLine) : Except Refusal CommandLine :=
  match f with
  | .help => .error .help
  | .check => if c.check then .error .repeated else .ok { c with check := true }
  | .reject => if c.reject then .error .repeated else .ok { c with reject := true }
  | .verbose => if c.verbose then .error .repeated else .ok { c with verbose := true }

/-- Gives a setting its value, which it must not have. The path of a configuration is not empty. -/
def give (s : Setting) (value : String) (c : CommandLine) : Except Refusal CommandLine :=
  match s with
  | .mode => if c.mode.isSome then .error .repeated else .ok { c with mode := some value }
  | .config =>
    if c.config.isSome then .error .repeated
    else if value.isEmpty then .error .invalidValue
    else .ok { c with config := some value }

/-- Carries out the setting that waits. -/
def settle (p : Progress) : Except Refusal CommandLine :=
  match p.waiting with
  | none => .ok p.asked
  | some (s, some value) => give s value p.asked
  | some (_, none) => .error .invalidValue

/-- Raises the flags of letters. The first letter that is none ends the reading. -/
def raiseLetters : List Char → Progress → Except Refusal Progress
  | [], p => .ok p
  | c :: rest, p =>
    match letter? c with
    | none => .error .unknownArgument
    | some f => do raiseLetters rest ⟨← raise f (← settle p), none⟩

/-- Reads a word. -/
def readWord (w : Word) (p : Progress) : Except Refusal Progress :=
  match w with
  | .long name value =>
    match setting? name, flag? name, value with
    | some s, _, some v => do return ⟨← give s v (← settle p), none⟩
    | some s, _, none => do return ⟨← settle p, some (s, none)⟩
    | none, some _, some _ => .error .unwantedValue
    | none, some f, none => do return ⟨← raise f (← settle p), none⟩
    | none, none, _ => .error .unknownArgument
  | .short letters => raiseLetters letters p
  | .plain text =>
    match p.waiting with
    | some (s, none) => .ok { p with waiting := some (s, some text) }
    | _ => .error .unknownArgument

/-- Reads words. Two dashes end the options, and nothing may follow them. -/
def readWords : List String → Progress → Except Refusal CommandLine
  | [], p => settle p
  | w :: rest, p =>
    if w = "--" then
      if rest.isEmpty then settle p else .error .unknownArgument
    else
      match readWord (.ofText w) p with
      | .ok p => readWords rest p
      | .error e => .error e

/-- Reads a command line. The first word is the program's own name. -/
def parse (args : List String) : Except Refusal CommandLine := readWords (args.drop 1) {}

end CommandLine

end LintGate
