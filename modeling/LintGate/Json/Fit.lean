/-
Fitting documents to what is expected of them.

A value is looked at in the order of the text. The first part that is missing,
broken or of the wrong kind decides; nothing after it is looked at. Structures may
be written as objects with named members or as lists of their members in order.
-/
import LintGate.Json.Document
import LintGate.Text.Quoted

set_option autoImplicit false

namespace LintGate.Json

/-! ## Misfits -/

/-- How a number is told. -/
def Number.told : Number → String
  | int n => s!"integer \x60{n}\x60"
  | fraction => "floating point"

/-- How a value without parts is told. -/
def Scalar.told : Scalar → String
  | null => "null"
  | bool b => s!"boolean \x60{b}\x60"
  | number n => n.told
  | string s => "string " ++ Text.quoted s

/-- The problem of a value of the wrong kind. -/
def wrongKind (told expected : String) : Problem :=
  .unfit ("invalid type: " ++ told ++ ", expected " ++ expected)

/-- The problem of an integer that is too small or too large. -/
def outOfRange (n : Int) (expected : String) : Problem :=
  .unfit (s!"invalid value: integer \x60{n}\x60, expected " ++ expected)

/-- The problem of a member that is missing. -/
def missingMember (name : String) : Problem := .unfit ("missing field \x60" ++ name ++ "\x60")

/-- The problem of a member that comes twice. -/
def repeatedMember (name : String) : Problem := .unfit ("duplicate field \x60" ++ name ++ "\x60")

/-- The problem of a member that is none of the known ones. -/
def unknownMember (name : String) (known : List String) : Problem :=
  .unfit ("unknown field \x60" ++ name ++ "\x60, expected one of "
    ++ ", ".intercalate (known.map fun k => "\x60" ++ k ++ "\x60"))

/-- The problem of a list that ends before the members of a structure do. -/
def tooShort (size : Nat) (expected : String) : Problem :=
  .unfit (s!"invalid length {size}, expected " ++ expected)

namespace Value

/-- The problem of a value where another kind is expected. What is broken is told to be broken. -/
def misfit (expected : String) : Value → Problem
  | literal l =>
    match l.value with
    | .ok s => wrongKind s.told expected
    | .error p => p
  | list _ _ => wrongKind "sequence" expected
  | object _ _ => wrongKind "map" expected
  | hole p => p

/-! ## Values without parts -/

/-- Any text. -/
def asText (v : Value) : Except Problem String :=
  match v with
  | literal ⟨.ok (.string s), _⟩ => .ok s
  | other => .error (other.misfit "a string")

/-- An integer between two bounds. -/
def asInteger (low high : Int) (expected : String) (v : Value) : Except Problem Int :=
  match v with
  | literal ⟨.ok (.number (.int n)), _⟩ =>
    if low ≤ n ∧ n ≤ high then .ok n else .error (outOfRange n expected)
  | other => .error (other.misfit expected)

/-- A value or nothing. -/
def asOption {α : Type} (f : Value → Except Problem α) (v : Value) : Except Problem (Option α) :=
  match v with
  | literal ⟨.ok .null, _⟩ => .ok none
  | other => (f other).map some

/-! ## Lists and objects -/

/-- The end of a list or an object. -/
def close (gap : Option Problem) : Except Problem Unit :=
  match gap with
  | some p => .error p
  | none => .ok ()

/-- The items of a list, each fitted. -/
def asList {α : Type} (f : Value → Except Problem α) (v : Value) : Except Problem (List α) :=
  match v with
  | list items gap => do
    let found ← items.mapM f
    close gap
    return found
  | other => .error (other.misfit "a sequence")

/-- Takes the members of an object in, one after the other. -/
def foldMembers {α : Type} (f : α → String → Value → Except Problem α) :
    α → List (Literal × Value) → Except Problem α
  | a, [] => .ok a
  | a, (key, value) :: rest => do
    let name ← asText (literal key)
    foldMembers f (← f a name value) rest

/-- What the members of an object amount to. -/
def foldObject {α : Type} (expected : String) (f : α → String → Value → Except Problem α) (start : α)
    (v : Value) : Except Problem α :=
  match v with
  | object members gap => do
    let found ← foldMembers f start members
    close gap
    return found
  | other => .error (other.misfit expected)

mutual

/-- Looks at a value only for its form. -/
def skip : Value → Except Problem Unit
  | literal l => close l.form
  | list items gap => do
    skipItems items
    close gap
  | object members gap => do
    skipMembers members
    close gap
  | hole p => .error p

/-- Looks at items only for their form. -/
def skipItems : List Value → Except Problem Unit
  | [] => .ok ()
  | v :: rest => do
    skip v
    skipItems rest

/-- Looks at members only for their form. -/
def skipMembers : List (Literal × Value) → Except Problem Unit
  | [] => .ok ()
  | (key, value) :: rest => do
    close key.form
    skip value
    skipMembers rest

end

/-! ## Structures written as lists -/

/-- Takes the next item of a list, if there is one. -/
def nextItem {α : Type} (f : Value → Except Problem α) (items : List Value) (gap : Option Problem) :
    Except Problem (Option α × List Value) :=
  match items with
  | item :: rest => do return (some (← f item), rest)
  | [] => do
    close gap
    return (none, [])

/-- The end of a list that holds a structure: no item may be left. -/
def closeItems (items : List Value) (gap : Option Problem) : Except Problem Unit :=
  if items.isEmpty then close gap else .error .malformed

end Value

end LintGate.Json
