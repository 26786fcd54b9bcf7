/-
Formatted output.

A format is text with escapes and directives. It is used again as long as arguments
are left, if it takes any; a directive without an argument prints nothing or zero.
-/
import LintGate.Sandbox.Process

set_option autoImplicit false

namespace LintGate.Sandbox.Format

/-- The byte of octal digits. -/
def octal (digits : List Char) : UInt8 :=
  (digits.foldl (fun n c => n * 8 + (c.toNat - '0'.toNat)) 0).toUInt8

/-- Whether a character is an octal digit. -/
def isOctal (c : Char) : Bool := '0' ≤ c && c ≤ '7'

/-- The value of a hexadecimal digit. -/
def hexDigit? (c : Char) : Option Nat :=
  if c.isDigit then some (c.toNat - '0'.toNat)
  else if 'a' ≤ c && c ≤ 'f' then some (c.toNat - 'a'.toNat + 10)
  else if 'A' ≤ c && c ≤ 'F' then some (c.toNat - 'A'.toNat + 10)
  else none

/-- The character of a simple escape. -/
def simpleEscape? (c : Char) : Option UInt8 :=
  match c with
  | 'n' => some 10
  | 't' => some 9
  | 'r' => some 13
  | 'a' => some 7
  | 'b' => some 8
  | 'f' => some 12
  | 'v' => some 11
  | 'e' => some 27
  | '\\' => some 92
  | '"' => some 34
  | _ => none

/-- What stands for an escape, after its backslash, and what follows. -/
def readEscape (s : List Char) : Bytes × List Char :=
  match s with
  | [] => ([92], [])
  | 'x' :: rest =>
    let digits := (rest.take 2).takeWhile fun c => (hexDigit? c).isSome
    if digits.isEmpty then (Bytes.ofText "\\x", rest)
    else
      ([(digits.foldl (fun n c => n * 16 + (hexDigit? c).getD 0) 0).toUInt8], rest.drop digits.length)
  | c :: rest =>
    match simpleEscape? c with
    | some b => ([b], rest)
    | none =>
      if isOctal c then
        let digits := ((c :: rest).take 3).takeWhile isOctal
        ([octal digits], (c :: rest).drop digits.length)
      else (Bytes.ofText ("\\" ++ c.toString), rest)

/-- A text with its escapes read, as an argument may want it. An escape in octal may have a zero more. -/
def unescape : Nat → List Char → Bytes
  | 0, _ => []
  | _ + 1, [] => []
  | n + 1, '\\' :: '0' :: rest =>
    let digits := (rest.take 3).takeWhile isOctal
    octal digits :: unescape n (rest.drop digits.length)
  | n + 1, '\\' :: rest => (readEscape rest).1 ++ unescape n (readEscape rest).2
  | n + 1, c :: rest => Bytes.ofText c.toString ++ unescape n rest

/-- A directive: its flags, width and precision. -/
structure Directive where
  left : Bool := false
  zero : Bool := false
  plus : Bool := false
  width : Nat := 0
  precision : Option Nat := none

/-- Fills a text up to its width. -/
def Directive.pad (d : Directive) (b : Bytes) : Bytes :=
  let missing := d.width - b.length
  if d.left then b ++ List.replicate missing 32 else List.replicate missing 32 ++ b

/-- The digits of a number in a base. -/
def Directive.number (d : Directive) (base : Nat) (upper : Bool) (n : Int) : Bytes :=
  let digits := Nat.toDigits base n.natAbs
  let digits := if upper then digits.map Char.toUpper else digits
  let sign := if n < 0 then ['-'] else if d.plus then ['+'] else []
  let missing := if d.zero && !d.left then d.width - digits.length - sign.length else 0
  d.pad (Bytes.ofText (String.ofList (sign ++ List.replicate missing '0' ++ digits)))

/-- The value of digits in a base. -/
def digitsValue (base : Nat) (digits : List Char) : Nat :=
  digits.foldl (fun n c => n * base + (hexDigit? c).getD 0) 0

/-- The value of a text as a number without a sign, as far as it is one, and whether it is one as a whole. -/
def magnitude (s : List Char) : Nat × Bool :=
  match s with
  | '0' :: x :: rest =>
    if x == 'x' || x == 'X' then
      let digits := rest.takeWhile fun c => (hexDigit? c).isSome
      (digitsValue 16 digits, !digits.isEmpty && digits.length == rest.length)
    else
      let digits := (x :: rest).takeWhile isOctal
      (digitsValue 8 digits, digits.length == rest.length + 1)
  | _ =>
    let digits := s.takeWhile Char.isDigit
    (digitsValue 10 digits, !digits.isEmpty && digits.length == s.length)

/-- The value of an argument as a number, and whether it is one. Nothing counts as zero. -/
def numberOf (s : String) : Int × Bool :=
  match s.trimAsciiStart.toString.toList with
  | [] => (0, true)
  | '"' :: c :: _ => (c.toNat, true)
  | '\'' :: c :: _ => (c.toNat, true)
  | '-' :: rest => let (n, ok) := magnitude rest; (-n, ok)
  | '+' :: rest => let (n, ok) := magnitude rest; (n, ok)
  | rest => let (n, ok) := magnitude rest; (n, ok)

/-- Reads a directive after its percent sign: the directive, its letter and what follows. -/
def readDirective (s : List Char) : Directive × Option Char × List Char :=
  let flags := s.takeWhile fun c => c == '-' || c == '0' || c == '+' || c == ' ' || c == '#'
  let s := s.drop flags.length
  let width := s.takeWhile Char.isDigit
  let s := s.drop width.length
  let (precision, s) :=
    match s with
    | '.' :: rest =>
      let digits := rest.takeWhile Char.isDigit
      (some ((String.ofList digits).toNat?.getD 0), rest.drop digits.length)
    | rest => (none, rest)
  (⟨flags.contains '-', flags.contains '0', flags.contains '+', (String.ofList width).toNat?.getD 0, precision⟩,
    s.head?, s.drop 1)

/-- The base of the numbers that a letter prints, and whether their digits are capital letters. -/
def baseOf? (letter : Char) : Option (Nat × Bool) :=
  match letter with
  | 'd' => some (10, false)
  | 'i' => some (10, false)
  | 'u' => some (10, false)
  | 'o' => some (8, false)
  | 'x' => some (16, false)
  | 'X' => some (16, true)
  | _ => none

/-- How a printer words its errors. -/
structure Wording where
  badNumber : String → String
  badFormat : String → String

/-- What was printed: the bytes, the arguments that are left, the errors, and whether that is the end. -/
structure Printed where
  out : Bytes := []
  args : List String
  errors : String := ""
  ended : Bool := false

/-- Bytes in front of what is printed. -/
def Printed.after (p : Printed) (b : Bytes) : Printed := { p with out := b ++ p.out }

/-- What a directive prints for an argument, and what is wrong with the argument. -/
def Directive.print (d : Directive) (w : Wording) (letter : Char) (argument : String) : Option (Bytes × String) :=
  let cut (b : Bytes) : Bytes :=
    match d.precision with
    | some n => b.take n
    | none => b
  match letter, baseOf? letter with
  | 's', _ => some (d.pad (cut (Bytes.ofText argument)), "")
  | 'b', _ => some (d.pad (unescape (argument.length + 1) argument.toList), "")
  | 'c', _ => some (d.pad (Bytes.ofText (String.ofList (argument.toList.take 1))), "")
  | _, some (base, upper) =>
    let (n, ok) := numberOf argument
    some (d.number base upper n, if ok then "" else w.badNumber argument)
  | _, none => none

/-- Prints a format once. The number bounds its parts. -/
def once (w : Wording) : Nat → List Char → List String → Printed
  | 0, _, args => { args }
  | _ + 1, [], args => { args }
  | _ + 1, '\\' :: 'c' :: _, args => { args, ended := true }
  | n + 1, '\\' :: rest, args =>
    let (b, rest) := readEscape rest
    (once w n rest args).after b
  | n + 1, '%' :: '%' :: rest, args => (once w n rest args).after [37]
  | n + 1, '%' :: rest, args =>
    let (d, letter, behind) := readDirective rest
    match letter.bind fun l => d.print w l (args.headD "") with
    | some (b, error) =>
      let p := once w n behind (args.drop 1)
      { p.after b with errors := error ++ p.errors }
    | none =>
      let directive := String.ofList ('%' :: rest.take (rest.length - behind.length))
      { args, errors := w.badFormat directive, ended := true }
  | n + 1, c :: rest, args => (once w n rest args).after (Bytes.ofText c.toString)

/-- Prints a format as often as its arguments want. The number bounds the repetitions. -/
def repeated (w : Wording) (format : List Char) : Nat → List String → Printed
  | 0, args => { args }
  | n + 1, args =>
    let p := once w (format.length + 1) format args
    if p.ended || p.args.isEmpty || p.args.length == args.length then p
    else
      let more := repeated w format n p.args
      { more with out := p.out ++ more.out, errors := p.errors ++ more.errors }

/-- Prints a format and its arguments. -/
def printf (w : Wording) (usage : Result) (args : List String) : Result :=
  match (match args with | "--" :: rest => rest | other => other) with
  | [] => usage
  | format :: rest =>
    let p := repeated w format.toList (rest.length + 1) rest
    { status := .exit (if p.errors.isEmpty then 0 else 1), out := p.out, err := Bytes.ofText p.errors }

/-- Prints as the program does. -/
def printfTool (args : List String) : Result :=
  let words : Wording :=
    ⟨fun a => "printf: '" ++ a ++ "': expected a numeric value\n",
      fun d => "printf: " ++ d ++ ": invalid conversion specification\n"⟩
  printf words (.failure 1 "printf: missing operand\nTry 'printf --help' for more information.\n") args

/-- Prints as a shell does, whose messages have a front. -/
def printfShell (front : String) (args : List String) : Result :=
  let words : Wording :=
    ⟨fun a => front ++ "printf: " ++ a ++ ": expected numeric value\n",
      fun d => front ++ "printf: " ++ d ++ ": invalid directive\n"⟩
  printf words (.failure 2 (front ++ "printf: usage: printf format [arg ...]\n")) args

end LintGate.Sandbox.Format
