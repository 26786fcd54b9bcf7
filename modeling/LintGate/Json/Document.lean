/-
Documents, as far as they go.

A document is read whole before it is looked at. Where the text breaks, the document
has a hole that knows the problem; whoever looks at the parts in the order of the
text meets the first problem first, be it a hole or a value that does not fit.
-/
import LintGate.Json.Token

set_option autoImplicit false

namespace LintGate.Json

/-- A value of a document. A list or an object tells by `gap` what stands in place of its end. -/
inductive Value where
  | literal (l : Literal)
  | list (items : List Value) (gap : Option Problem)
  | object (members : List (Literal × Value)) (gap : Option Problem)
  | hole (p : Problem)

/-- The problem of a token that cannot stand where it does, or of the text's end there. -/
def misplaced : List Token → Problem
  | [] => .unfinished
  | _ :: _ => .malformed

mutual

/-- Reads a value. The number bounds the tokens. -/
def readValue : Nat → List Token → Value × List Token
  | 0, _ => (.hole .unfinished, [])
  | _ + 1, [] => (.hole .unfinished, [])
  | _ + 1, .literal l :: rest => (.literal l, rest)
  | _ + 1, .string l :: rest => (.literal l, rest)
  | n + 1, .mark '[' :: rest =>
    match rest with
    | .mark ']' :: rest => (.list [] none, rest)
    | [] => (.list [] (some .unfinished), [])
    | _ => readItems n [] rest
  | n + 1, .mark '\x7b' :: rest =>
    match rest with
    | .mark '\x7d' :: rest => (.object [] none, rest)
    | _ => readMembers n [] rest
  | _ + 1, _ :: _ => (.hole .malformed, [])

/-- Reads the items of a list, of which the first is due. -/
def readItems : Nat → List Value → List Token → Value × List Token
  | 0, done, _ => (.list done.reverse (some .unfinished), [])
  | n + 1, done, ts =>
    match readValue n ts with
    | (item, .mark ',' :: rest) => readItems n (item :: done) rest
    | (item, .mark ']' :: rest) => (.list (item :: done).reverse none, rest)
    | (item, rest) => (.list (item :: done).reverse (some (misplaced rest)), [])

/-- Reads the members of an object, of which the first is due. -/
def readMembers : Nat → List (Literal × Value) → List Token → Value × List Token
  | 0, done, _ => (.object done.reverse (some .unfinished), [])
  | n + 1, done, ts =>
    match ts with
    | .string key :: .mark ':' :: rest =>
      match readValue n rest with
      | (value, .mark ',' :: rest) => readMembers n ((key, value) :: done) rest
      | (value, .mark '\x7d' :: rest) => (.object ((key, value) :: done).reverse none, rest)
      | (value, rest) => (.object ((key, value) :: done).reverse (some (misplaced rest)), [])
    | .string key :: rest => (.object ((key, .hole (misplaced rest)) :: done).reverse none, [])
    | rest => (.object done.reverse (some (misplaced rest)), [])

end

/-- A text read: its value, and the problem of what follows the value, if anything does. -/
structure Document where
  value : Value
  excess : Option Problem

/-- Reads a text. -/
def Document.ofText (s : String) : Document :=
  let ts := tokens s
  let (value, rest) := readValue (2 * ts.length + 2) ts
  ⟨value, if rest.isEmpty then none else some .malformed⟩

end LintGate.Json
