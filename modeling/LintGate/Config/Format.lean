/-
The written form of a configuration.
-/
import LintGate.Config.Basic
import LintGate.Json.Fit

set_option autoImplicit false

namespace LintGate.Config

open Json (Value Problem)

/-! ## Languages and linters -/

/-- The members of a structure that were met so far. -/
structure Met (α β : Type) where
  first : Option α := none
  second : Option β := none

/-- Meets a member for the first time. -/
def meet {α : Type} (name : String) (found : Option α) (f : Value → Except Problem α) (v : Value) :
    Except Problem (Option α) :=
  if found.isSome then .error (Json.repeatedMember name) else (f v).map some

/-- A member that has to be there. -/
def require {α : Type} (name : String) (found : Option α) : Except Problem α :=
  match found with
  | some a => .ok a
  | none => .error (Json.missingMember name)

/-- A list of texts. -/
def texts : Value → Except Problem (List String) := Value.asList Value.asText

/-- Meets a member of a language. Others are ignored. -/
def meetLanguage (m : Met (List String) (List String)) (name : String) (v : Value) :
    Except Problem (Met (List String) (List String)) :=
  match name with
  | "extensions" => do return { m with first := ← meet name m.first texts v }
  | "linters" => do return { m with second := ← meet name m.second texts v }
  | _ => do
    v.skip
    return m

/-- How a language is told when its list is too short. -/
def languageSize : String := "struct Language with 2 elements"

/-- A language. -/
def language (v : Value) : Except Problem Language :=
  match v with
  | .list items gap => do
    let (extensions, items) ← Value.nextItem texts items gap
    match extensions with
    | none => .error (Json.tooShort 0 languageSize)
    | some extensions =>
      let (linters, items) ← Value.nextItem texts items gap
      match linters with
      | none => .error (Json.tooShort 1 languageSize)
      | some linters =>
        Value.closeItems items gap
        return ⟨extensions, linters⟩
  | other => do
    let m ← other.foldObject "struct Language" meetLanguage {}
    return ⟨← require "extensions" m.first, ← require "linters" m.second⟩

/-- A list of exit codes. -/
def exitCodes : Value → Except Problem (List Int) :=
  Value.asList (Value.asInteger (-2147483648) 2147483647 "i32")

/-- Meets a member of a linter. Others are ignored. -/
def meetLinter (m : Met String (List Int)) (name : String) (v : Value) :
    Except Problem (Met String (List Int)) :=
  match name with
  | "command" => do return { m with first := ← meet name m.first Value.asText v }
  | "finding_exit_codes" => do return { m with second := ← meet name m.second exitCodes v }
  | _ => do
    v.skip
    return m

/-- The linter of a command and its exit codes, if any are given. -/
def linterOf (command : String) : Option (List Int) → LinterSpec
  | some codes => { command, findingExitCodes := codes }
  | none => { command }

/-- A linter. -/
def linter (v : Value) : Except Problem LinterSpec :=
  match v with
  | .list items gap => do
    let (command, items) ← Value.nextItem Value.asText items gap
    match command with
    | none => .error (Json.tooShort 0 "struct LinterSpec with 2 elements")
    | some command =>
      let (codes, items) ← Value.nextItem exitCodes items gap
      Value.closeItems items gap
      return linterOf command codes
  | other => do
    let m ← other.foldObject "struct LinterSpec" meetLinter {}
    return linterOf (← require "command" m.first) m.second

/-- Values by name. Of values under one name the last counts. -/
def named {α : Type} (f : Value → Except Problem α) : Value → Except Problem (List (String × α)) :=
  Value.foldObject "a map" (fun entries name v => do return insertNamed name (← f v) entries) []

/-! ## Whole configurations -/

/-- The names of a configuration's members, in the order in which a list gives them. -/
def memberNames : List String := ["languages", "linters", "timeout_secs", "defect_pattern"]

/-- A configuration's members met so far. -/
structure MetAll where
  languages : Option (List (String × Language)) := none
  linters : Option (List (String × LinterSpec)) := none
  timeout : Option Int := none
  defectPattern : Option (Option String) := none

/-- A time limit. -/
def timeLimit : Value → Except Problem Int := Value.asInteger 0 18446744073709551615 "u64"

/-- Meets a member of a configuration. There are no others. -/
def meetMember (m : MetAll) (name : String) (v : Value) : Except Problem MetAll :=
  match name with
  | "languages" => do return { m with languages := ← meet name m.languages (named language) v }
  | "linters" => do return { m with linters := ← meet name m.linters (named linter) v }
  | "timeout_secs" => do return { m with timeout := ← meet name m.timeout timeLimit v }
  | "defect_pattern" => do
    return { m with defectPattern := ← meet name m.defectPattern (Value.asOption Value.asText) v }
  | _ => .error (Json.unknownMember name memberNames)

/-- The configuration of its members. What was not met has its default. -/
def MetAll.config (m : MetAll) : Config where
  languages := m.languages.getD []
  linters := m.linters.getD []
  timeout := (m.timeout.getD 60).toNat
  defectPattern := m.defectPattern.getD none

/-- A configuration. -/
def ofValue (v : Value) : Except Problem Config :=
  match v with
  | .list items gap => do
    let (languages, items) ← Value.nextItem (named language) items gap
    let (linters, items) ← Value.nextItem (named linter) items gap
    let (timeout, items) ← Value.nextItem timeLimit items gap
    let (defectPattern, items) ← Value.nextItem (Value.asOption Value.asText) items gap
    Value.closeItems items gap
    return MetAll.config ⟨languages, linters, timeout, defectPattern⟩
  | other => return (← other.foldObject "struct Config" meetMember {}).config

/-- The configuration that a text holds. -/
def ofText (s : String) : Except Problem Config := do
  let d := Json.Document.ofText s
  let config ← ofValue d.value
  Value.close d.excess
  return config

end LintGate.Config
