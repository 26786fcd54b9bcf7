/-
Kinds of staged change.

A staged path is added, copied, modified or renamed. A filter is a set of kinds;
it is written as a string of one-letter codes in either case, and joining codes
joins kinds.
-/

set_option autoImplicit false

namespace LintGate

/-! ## Errors of the version control -/

/-- A version-control operation that failed, and why. -/
structure VcsError where
  operation : String
  message : String
deriving DecidableEq, Repr

/-- The text of a failed operation. -/
def VcsError.text (e : VcsError) : String := e.operation ++ " failed: " ++ e.message

/-! ## Kinds and filters -/

/-- What happened to a staged path. -/
inductive ChangeKind where
  | added
  | copied
  | modified
  | renamed
deriving DecidableEq, Repr

namespace ChangeKind

/-- All kinds, in the order of their codes. -/
def all : List ChangeKind := [added, copied, modified, renamed]

/-- The code of a kind. -/
def code : ChangeKind → Char
  | added => 'A'
  | copied => 'C'
  | modified => 'M'
  | renamed => 'R'

/-- The kind of a code. -/
def ofCode? (c : Char) : Option ChangeKind := all.find? fun k => k.code == c

end ChangeKind

/-- A set of kinds. -/
structure ChangeFilter where
  added : Bool := false
  copied : Bool := false
  modified : Bool := false
  renamed : Bool := false
deriving DecidableEq, Repr

namespace ChangeFilter

/-- Whether a kind belongs to the filter. -/
def contains (f : ChangeFilter) : ChangeKind → Bool
  | .added => f.added
  | .copied => f.copied
  | .modified => f.modified
  | .renamed => f.renamed

/-- The filter with one more kind. -/
def insert (f : ChangeFilter) : ChangeKind → ChangeFilter
  | .added => { f with added := true }
  | .copied => { f with copied := true }
  | .modified => { f with modified := true }
  | .renamed => { f with renamed := true }

/-- The filter of the kinds listed. -/
def of (kinds : List ChangeKind) : ChangeFilter := kinds.foldl insert {}

/-- The kinds of a string of codes, or the first code that names none. -/
def kindsOfCodes : List Char → Except VcsError (List ChangeKind)
  | [] => .ok []
  | c :: rest =>
    match ChangeKind.ofCode? c.toUpper with
    | none => .error ⟨"change filter", "unknown change code '" ++ c.toUpper.toString ++ "'"⟩
    | some kind => (kindsOfCodes rest).map (kind :: ·)

/-- The filter of a string of codes. -/
def ofCodes (codes : String) : Except VcsError ChangeFilter := (kindsOfCodes codes.toList).map of

/-- The codes of a filter, in the order of the kinds. -/
def codes (f : ChangeFilter) : String := String.ofList ((ChangeKind.all.filter f.contains).map (·.code))

end ChangeFilter

/-- A staged rename. -/
structure Rename where
  oldPath : String
  newPath : String
deriving DecidableEq, Repr

end LintGate
