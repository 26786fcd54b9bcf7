/-
Tokens of a document.

Strings and numbers can be read for their value or only for their form. A value can
have a problem where the form has none: halves of a pair of code units that stand
alone, and numbers beyond all bounds. A problem of form ends the reading, for what
comes after it has no meaning.
-/
import LintGate.Json.Problem

set_option autoImplicit false

namespace LintGate.Json

/-- A number: an integer of at most 64 bits, or any other. -/
inductive Number where
  | int (n : Int)
  | fraction
deriving DecidableEq, Repr

/-- A value that has no parts. -/
inductive Scalar where
  | null
  | bool (b : Bool)
  | number (n : Number)
  | string (s : String)
deriving DecidableEq, Repr

/-- A value that has no parts, read for its value and for its form. -/
structure Literal where
  value : Except Problem Scalar
  form : Option Problem

/-- A token. -/
inductive Token where
  /-- One of the marks that give a document its structure. -/
  | mark (c : Char)
  /-- A string. -/
  | string (l : Literal)
  /-- Any other value without parts. -/
  | literal (l : Literal)
  /-- A character that begins no token. -/
  | stray

/-! ## Strings -/

/-- The value of a hexadecimal digit. -/
def hexValue? (c : Char) : Option Nat :=
  if '0' ≤ c ∧ c ≤ '9' then some (c.toNat - '0'.toNat)
  else if 'a' ≤ c ∧ c ≤ 'f' then some (c.toNat - 'a'.toNat + 10)
  else if 'A' ≤ c ∧ c ≤ 'F' then some (c.toNat - 'A'.toNat + 10)
  else none

/-- Whether at least four bytes are left. -/
def hasFourBytes (s : List Char) : Bool :=
  4 ≤ (s.take 4).foldl (fun n c => n + c.utf8Size) 0

/-- The value of four hexadecimal digits, and what follows them. -/
def fourDigits : List Char → Except Problem (Nat × List Char)
  | a :: b :: c :: d :: rest =>
    match hexValue? a, hexValue? b, hexValue? c, hexValue? d with
    | some a, some b, some c, some d => .ok (((a * 16 + b) * 16 + c) * 16 + d, rest)
    | _, _, _, _ => .error .malformed
  | short => .error (if hasFourBytes short then .malformed else .unfinished)

/-- The character of a simple escape. -/
def escaped? (c : Char) : Option Char :=
  match c with
  | '"' => some '"'
  | '\\' => some '\\'
  | '/' => some '/'
  | 'b' => some '\x08'
  | 'f' => some '\x0c'
  | 'n' => some '\n'
  | 'r' => some '\r'
  | 't' => some '\t'
  | _ => none

/-- A piece of a string: a character, or a code unit given by its number. -/
inductive Piece where
  | char (c : Char)
  | unit (n : Nat)

/-- The pieces of a string up to its closing quote, and what follows. A problem comes with the pieces
in front of it. -/
structure Body where
  pieces : List Piece
  rest : Except Problem (List Char)

/-- Puts a piece in front. -/
def Body.cons (p : Piece) (b : Body) : Body := { b with pieces := p :: b.pieces }

/-- Reads a string after its opening quote. The number bounds the pieces. -/
def readBody : Nat → List Char → Body
  | 0, _ => ⟨[], .error .unfinished⟩
  | _ + 1, [] => ⟨[], .error .unfinished⟩
  | _ + 1, '"' :: rest => ⟨[], .ok rest⟩
  | _ + 1, ['\\'] => ⟨[], .error .unfinished⟩
  | n + 1, '\\' :: 'u' :: rest =>
    match fourDigits rest with
    | .ok (unit, rest) => (readBody n rest).cons (.unit unit)
    | .error e => ⟨[], .error e⟩
  | n + 1, '\\' :: c :: rest =>
    match escaped? c with
    | some e => (readBody n rest).cons (.char e)
    | none => ⟨[], .error .malformed⟩
  | n + 1, c :: rest =>
    if c < ' ' then ⟨[], .error .malformed⟩ else (readBody n rest).cons (.char c)

/-- Whether a code unit is the first half of a pair. -/
def isLeading (n : Nat) : Bool := 0xd800 ≤ n && n ≤ 0xdbff

/-- Whether a code unit is the second half of a pair. -/
def isTrailing (n : Nat) : Bool := 0xdc00 ≤ n && n ≤ 0xdfff

/-- The characters of pieces. `ending` is the problem after the last piece, if there is one: it is
met before the lack of a second half is. -/
def charsOf (ending : Option Problem) : List Piece → Except Problem (List Char)
  | [] =>
    match ending with
    | some e => .error e
    | none => .ok []
  | .char c :: rest => (charsOf ending rest).map (c :: ·)
  | .unit n :: .unit m :: rest =>
    if isLeading n then
      if isTrailing m then
        (charsOf ending rest).map (Char.ofNat ((n - 0xd800) * 0x400 + (m - 0xdc00) + 0x10000) :: ·)
      else .error .malformed
    else if isTrailing n then .error .malformed
    else (charsOf ending (.unit m :: rest)).map (Char.ofNat n :: ·)
  | .unit n :: rest =>
    if isTrailing n then .error .malformed
    else if isLeading n then
      match rest, ending with
      | [], some e => .error e
      | _, _ => .error .malformed
    else (charsOf ending rest).map (Char.ofNat n :: ·)

/-- Reads a string after its opening quote. -/
def readString (s : List Char) : Literal × List Char :=
  let body := readBody (s.length + 1) s
  let form :=
    match body.rest with
    | .ok _ => none
    | .error e => some e
  (⟨(charsOf form body.pieces).map fun cs => .string (String.ofList cs), form⟩, body.rest.toOption.getD [])

/-! ## Numbers -/

/-- The least number that is out of bounds. -/
def bound : Nat := Nat.pow 2 1024 - Nat.pow 2 970

/-- Whether a decimal is within bounds. -/
def isInBounds (digits : List Char) (exponent : Int) : Bool :=
  let significant := digits.dropWhile (· == '0')
  let size : Int := significant.length
  let value := significant.foldl (fun n c => n * 10 + (c.toNat - '0'.toNat)) 0
  if value = 0 then true
  else if size + exponent > 400 then false
  else if size + exponent < 0 then true
  else if 0 ≤ exponent then value * Nat.pow 10 exponent.toNat < bound
  else value < bound * Nat.pow 10 (-exponent).toNat

/-- The number of an integer's digits and sign. Negative zero is none of the integers. -/
def integerOf (negative : Bool) (digits : List Char) : Except Problem Scalar :=
  let n : Nat := digits.foldl (fun n c => n * 10 + (c.toNat - '0'.toNat)) 0
  if negative then
    if 0 < n && n ≤ 9223372036854775808 then .ok (.number (.int (-n)))
    else if isInBounds digits 0 then .ok (.number .fraction)
    else .error .malformed
  else if n < UInt64.size then .ok (.number (.int n))
  else if isInBounds digits 0 then .ok (.number .fraction)
  else .error .malformed

/-- A number that breaks off. Only who wants its value tells an early end from a wrong character. -/
def brokenNumber (rest : List Char) : Literal × List Char :=
  (⟨.error (if rest.isEmpty then .unfinished else .malformed), some .malformed⟩, [])

/-- The value of a decimal within bounds. -/
def fractionOf (digits : List Char) (exponent : Int) : Except Problem Scalar :=
  if isInBounds digits exponent then .ok (.number .fraction) else .error .malformed

/-- Reads an exponent after its letter. -/
def readExponent (digits : List Char) (shift : Nat) (s : List Char) : Literal × List Char :=
  let (negative, rest) :=
    match s with
    | '+' :: rest => (false, rest)
    | '-' :: rest => (true, rest)
    | other => (false, other)
  let ending := rest.takeWhile Char.isDigit
  if ending.isEmpty then brokenNumber rest
  else
    let n : Int := (ending.foldl (fun n c => n * 10 + (c.toNat - '0'.toNat)) 0 : Nat)
    (⟨fractionOf digits ((if negative then -n else n) - shift), none⟩, rest.dropWhile Char.isDigit)

/-- Reads what may follow the integral digits of a number. -/
def readFraction (negative : Bool) (digits : List Char) : List Char → Literal × List Char
  | '.' :: rest =>
    let more := rest.takeWhile Char.isDigit
    if more.isEmpty then brokenNumber rest
    else
      match rest.dropWhile Char.isDigit with
      | 'e' :: rest => readExponent (digits ++ more) more.length rest
      | 'E' :: rest => readExponent (digits ++ more) more.length rest
      | rest => (⟨fractionOf (digits ++ more) (-(more.length : Int)), none⟩, rest)
  | 'e' :: rest => readExponent digits 0 rest
  | 'E' :: rest => readExponent digits 0 rest
  | rest => (⟨integerOf negative digits, none⟩, rest)

/-- Reads a number after its sign. A zero in front stands alone. -/
def readUnsigned (negative : Bool) (s : List Char) : Literal × List Char :=
  match s with
  | '0' :: rest =>
    match rest with
    | c :: _ => if c.isDigit then (⟨.error .malformed, some .malformed⟩, [])
        else readFraction negative ['0'] rest
    | [] => readFraction negative ['0'] []
  | _ =>
    let digits := s.takeWhile Char.isDigit
    if digits.isEmpty then brokenNumber s else readFraction negative digits (s.dropWhile Char.isDigit)

/-! ## Words -/

/-- Reads the rest of a word. -/
def readWord (value : Scalar) : List Char → List Char → Literal × List Char
  | [], rest => (⟨.ok value, none⟩, rest)
  | _ :: _, [] => (⟨.error .unfinished, some .unfinished⟩, [])
  | w :: word, c :: rest =>
    if c = w then readWord value word rest else (⟨.error .malformed, some .malformed⟩, [])

/-! ## Tokens -/

/-- Whether a character separates tokens. -/
def isSpace (c : Char) : Bool := c == ' ' || c == '\t' || c == '\n' || c == '\r'

/-- The token that begins with a character, and what follows it. -/
def readToken (c : Char) (rest : List Char) : Token × List Char :=
  let literal (r : Literal × List Char) : Token × List Char := (.literal r.1, r.2)
  if c ∈ ['[', ']', '\x7b', '\x7d', ',', ':'] then (.mark c, rest)
  else if c = '"' then (.string (readString rest).1, (readString rest).2)
  else if c = '-' then literal (readUnsigned true rest)
  else if c.isDigit then literal (readUnsigned false (c :: rest))
  else if c = 'n' then literal (readWord .null "ull".toList rest)
  else if c = 't' then literal (readWord (.bool true) "rue".toList rest)
  else if c = 'f' then literal (readWord (.bool false) "alse".toList rest)
  else (.stray, [])

/-- The tokens of a text. The number bounds them. -/
def readTokens : Nat → List Char → List Token
  | 0, _ => []
  | n + 1, s =>
    match s.dropWhile isSpace with
    | [] => []
    | c :: rest => (readToken c rest).1 :: readTokens n (readToken c rest).2

/-- The tokens of a text. -/
def tokens (s : String) : List Token := readTokens s.length s.toList

end LintGate.Json
