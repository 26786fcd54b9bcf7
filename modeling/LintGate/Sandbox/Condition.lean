/-
Conditions on texts, numbers and files.
-/
import LintGate.Sandbox.Process

set_option autoImplicit false

namespace LintGate.Sandbox.Condition

/-- Whether a condition on one operand holds. -/
def unary (disk : Folder) (resolve : String → String) (op operand : String) : Option Bool :=
  let entry := disk.at? (resolve operand)
  match op with
  | "-n" => some (!operand.isEmpty)
  | "-z" => some operand.isEmpty
  | "-e" => some entry.toOption.isSome
  | "-r" => some entry.toOption.isSome
  | "-w" => some entry.toOption.isSome
  | "-f" => some (match entry with | .ok (.file ..) => true | _ => false)
  | "-d" => some (match entry with | .ok (.folder _) => true | _ => false)
  | "-s" => some (match entry with | .ok (.file content _) => !content.isEmpty | .ok _ => true | _ => false)
  | "-x" => some (match entry with | .ok (.file _ x) => x | .ok _ => true | _ => false)
  | "-h" => some false
  | "-L" => some false
  | "-t" => some false
  | _ => none

/-- Whether a condition on two operands holds. -/
def binary (a op b : String) : Option Bool :=
  let numbers (p : Int → Int → Bool) : Option Bool :=
    match a.trimAscii.toInt?, b.trimAscii.toInt? with
    | some x, some y => some (p x y)
    | _, _ => none
  match op with
  | "=" => some (a == b)
  | "==" => some (a == b)
  | "!=" => some (a != b)
  | "-eq" => numbers (· == ·)
  | "-ne" => numbers (· != ·)
  | "-lt" => numbers fun x y => x < y
  | "-le" => numbers fun x y => x ≤ y
  | "-gt" => numbers fun x y => y < x
  | "-ge" => numbers fun x y => y ≤ x
  | _ => none

/-- Whether words hold as a condition. A malformed one is neither. -/
def holds (disk : Folder) (resolve : String → String) : Nat → List String → Option Bool
  | 0, _ => none
  | _ + 1, [] => some false
  | _ + 1, [a] => some (!a.isEmpty)
  | n + 1, "!" :: rest => (holds disk resolve n rest).map (!·)
  | _ + 1, [op, a] => unary disk resolve op a
  | n + 1, a :: op :: b :: rest =>
    match op, rest with
    | "-a", _ => do return a != "" && (← holds disk resolve n (b :: rest))
    | "-o", _ => do return a != "" || (← holds disk resolve n (b :: rest))
    | _, [] => binary a op b
    | _, "-a" :: more => do return (← binary a op b) && (← holds disk resolve n more)
    | _, "-o" :: more => do return (← binary a op b) || (← holds disk resolve n more)
    | _, _ =>
      match b with
      | "-a" => do return (← unary disk resolve a op) && (← holds disk resolve n rest)
      | "-o" => do return (← unary disk resolve a op) || (← holds disk resolve n rest)
      | _ => none

/-- Tests a condition. -/
def test (disk : Folder) (resolve : String → String) (words : List String) : Result :=
  match holds disk resolve (words.length + 1) words with
  | some true => {}
  | some false => { status := .exit 1 }
  | none => .failure 2 "sh: 1: test: unexpected operator\n"

end LintGate.Sandbox.Condition
