/-
A small language for records.

A program is a list of rules; each has a condition and an action that is carried out
on every line that meets it. Values are texts, and texts that look like integers are
integers where that matters.
-/
import LintGate.Sandbox.Process
import LintGate.Sandbox.Tools.Search

set_option autoImplicit false

namespace LintGate.Sandbox.Tools.Awk

/-! ## Programs -/

/-- A token. -/
inductive Token where
  | text (s : String)
  | number (n : Int)
  | pattern (s : List Char)
  | name (s : String)
  | mark (s : String)
deriving DecidableEq, Repr

/-- An expression. -/
inductive Term where
  | text (s : String)
  | number (n : Int)
  | matched (pattern : List Char)
  | variable (name : String)
  | field (t : Term)
  | assign (name op : String) (t : Term)
  | unary (op : String) (t : Term)
  | binary (op : String) (a b : Term)
deriving Repr

/-- An action. -/
inductive Action where
  | skip
  | seq (a b : Action)
  | print (ts : List Term)
  | eval (t : Term)
  | exit (t : Option Term)
  | nextLine
  | branch (condition : Term) (yes no : Action)
deriving Repr

/-- When a rule applies. -/
inductive When where
  | start
  | finish
  | always
  | holds (t : Term)
deriving Repr

/-! ## Reading -/

/-- The marks, longer ones first. -/
def marks : List String :=
  ["==", "!=", "<=", ">=", "&&", "||", "+=", "-=", "++", "--", "!~", "\x7b", "\x7d", "(", ")", ";", "\n", ",",
    "$", "=", "<", ">", "+", "-", "*", "/", "%", "!", "~"]

/-- The text up to a closing sign, backslashes kept in pairs, and what follows. -/
def spanTo (close : Char) : List Char → List Char × List Char
  | [] => ([], [])
  | '\\' :: c :: rest => let (s, r) := spanTo close rest; ('\\' :: c :: s, r)
  | c :: rest => if c = close then ([], rest) else let (s, r) := spanTo close rest; (c :: s, r)

/-- A text with its escapes read. -/
def readEscapes : List Char → List Char
  | '\\' :: 'n' :: rest => '\n' :: readEscapes rest
  | '\\' :: 't' :: rest => '\t' :: readEscapes rest
  | '\\' :: c :: rest => c :: readEscapes rest
  | c :: rest => c :: readEscapes rest
  | [] => []

/-- Whether a bar begins a pattern after a token, and is no division. -/
def opensPattern : Option Token → Bool
  | none => true
  | some (.mark m) => m != ")" && m != "$"
  | some (.name n) => n == "print" || n == "exit"
  | _ => false

/-- The tokens of a program. The number bounds them. -/
def readTokens : Nat → Option Token → List Char → List Token
  | 0, _, _ => []
  | n + 1, before, s =>
    match s.dropWhile fun c => c == ' ' || c == '\t' with
    | [] => []
    | '#' :: rest => readTokens n before (rest.dropWhile (· != '\n'))
    | '"' :: rest =>
      let (body, rest) := spanTo '"' rest
      let t := Token.text (String.ofList (readEscapes body))
      t :: readTokens n (some t) rest
    | c :: rest =>
      if c == '/' && opensPattern before then
        let (body, rest) := spanTo '/' rest
        .pattern body :: readTokens n (some (.pattern body)) rest
      else if c.isDigit then
        let digits := (c :: rest).takeWhile Char.isDigit
        let t := Token.number ((String.ofList digits).toNat?.getD 0)
        t :: readTokens n (some t) ((c :: rest).drop digits.length)
      else if c.isAlpha || c == '_' then
        let word := (c :: rest).takeWhile fun c => c.isAlphanum || c == '_'
        let t := Token.name (String.ofList word)
        t :: readTokens n (some t) ((c :: rest).drop word.length)
      else
        match marks.find? fun m => m.toList.isPrefixOf (c :: rest) with
        | some m => .mark m :: readTokens n (some (.mark m)) ((c :: rest).drop m.length)
        | none => readTokens n before rest

/-- The operators of each level, from the loosest. A level without operators is juxtaposition. -/
def levels : List (List String) :=
  [["||"], ["&&"], ["~", "!~"], ["<=", ">=", "==", "!=", "<", ">"], [], ["+", "-"], ["*", "/", "%"]]

/-- Whether a token can begin an operand. -/
def beginsOperand : Token → Bool
  | .mark m => m == "$" || m == "(" || m == "!"
  | .name n => !(["print", "exit", "next", "if", "else", "in"].contains n)
  | _ => true

mutual

/-- An expression. The number bounds the depth. -/
def readTerm : Nat → List Token → Option (Term × List Token)
  | 0, _ => none
  | n + 1, ts =>
    match ts with
    | .name v :: .mark op :: rest =>
      if op == "=" || op == "+=" || op == "-=" then
        (readTerm n rest).map fun (t, r) => (.assign v op t, r)
      else readLevel n levels ts
    | _ => readLevel n levels ts

/-- An expression of a level. -/
def readLevel : Nat → List (List String) → List Token → Option (Term × List Token)
  | 0, _, _ => none
  | n + 1, [], ts => readOperand n ts
  | n + 1, ops :: deeper, ts => do
    let (a, ts) ← readLevel n deeper ts
    readRest n ops deeper a ts

/-- What follows the first operand of a level. -/
def readRest : Nat → List String → List (List String) → Term → List Token → Option (Term × List Token)
  | 0, _, _, _, _ => none
  | n + 1, ops, deeper, a, ts =>
    match ts with
    | t :: rest =>
      if ops.isEmpty then
        if beginsOperand t then do
          let (b, ts) ← readLevel n deeper ts
          readRest n ops deeper (.binary " " a b) ts
        else some (a, ts)
      else
        match t with
        | .mark m =>
          if ops.contains m then do
            let (b, ts) ← readLevel n deeper rest
            readRest n ops deeper (.binary m a b) ts
          else some (a, ts)
        | _ => some (a, ts)
    | [] => some (a, [])

/-- An operand. -/
def readOperand : Nat → List Token → Option (Term × List Token)
  | 0, _ => none
  | n + 1, ts =>
    match ts with
    | .text s :: rest => some (.text s, rest)
    | .number k :: rest => some (.number k, rest)
    | .pattern p :: rest => some (.matched p, rest)
    | .name v :: .mark "++" :: rest => some (.binary "-" (.assign v "+=" (.number 1)) (.number 1), rest)
    | .name v :: .mark "--" :: rest => some (.binary "+" (.assign v "-=" (.number 1)) (.number 1), rest)
    | .name v :: rest => some (.variable v, rest)
    | .mark "++" :: .name v :: rest => some (.assign v "+=" (.number 1), rest)
    | .mark "$" :: rest => (readOperand n rest).map fun (t, r) => (.field t, r)
    | .mark "!" :: rest => (readOperand n rest).map fun (t, r) => (.unary "!" t, r)
    | .mark "-" :: rest => (readOperand n rest).map fun (t, r) => (.unary "-" t, r)
    | .mark "(" :: rest =>
      match readTerm n rest with
      | some (t, .mark ")" :: rest) => some (t, rest)
      | _ => none
    | _ => none

end

/-- Expressions separated by commas. -/
def readTerms : Nat → List Token → Option (List Term × List Token)
  | 0, _ => none
  | n + 1, ts => do
    let (t, ts) ← readTerm (8 * ts.length + 64) ts
    match ts with
    | .mark "," :: rest => (readTerms n rest).map fun (more, r) => (t :: more, r)
    | _ => some ([t], ts)

/-- Drops the ends of statements in front. -/
def skipEnds (ts : List Token) : List Token := ts.dropWhile fun t => t == .mark ";" || t == .mark "\n"

/-- Whether a statement ends here. -/
def endsStatement : List Token → Bool
  | [] => true
  | .mark m :: _ => m == ";" || m == "\n" || m == "\x7d"
  | _ => false

mutual

/-- A statement. The number bounds the depth. -/
def readAction : Nat → List Token → Option (Action × List Token)
  | 0, _ => none
  | n + 1, ts =>
    let size := 8 * ts.length + 64
    match ts with
    | .mark "\x7b" :: rest => readBlock n rest
    | .name "print" :: rest =>
      if endsStatement rest then some (.print [], rest)
      else (readTerms size rest).map fun (xs, r) => (.print xs, r)
    | .name "next" :: rest => some (.nextLine, rest)
    | .name "exit" :: rest =>
      if endsStatement rest then some (.exit none, rest)
      else (readTerm size rest).map fun (t, r) => (.exit (some t), r)
    | .name "if" :: .mark "(" :: rest => do
      let (c, ts) ← readTerm size rest
      match ts with
      | .mark ")" :: rest =>
        let (yes, ts) ← readAction n (skipEnds rest)
        match skipEnds ts with
        | .name "else" :: rest => (readAction n (skipEnds rest)).map fun (no, r) => (.branch c yes no, r)
        | _ => some (.branch c yes .skip, ts)
      | _ => none
    | _ => (readTerm size ts).map fun (t, r) => (.eval t, r)

/-- Statements up to a closing brace. -/
def readBlock : Nat → List Token → Option (Action × List Token)
  | 0, _ => none
  | n + 1, ts =>
    match skipEnds ts with
    | .mark "\x7d" :: rest => some (.skip, rest)
    | ts => do
      let (a, ts) ← readAction n ts
      let (b, ts) ← readBlock n ts
      some (.seq a b, ts)

end

/-- The action of a rule. A rule without one prints the line. -/
def readRuleAction (n : Nat) (ts : List Token) : Option (Action × List Token) :=
  match ts with
  | .mark "\x7b" :: rest => readBlock n rest
  | _ => some (.print [], ts)

/-- The rules of a program. The number bounds them. -/
def readRules : Nat → List Token → Option (List (When × Action))
  | 0, _ => none
  | n + 1, ts =>
    let size := 8 * ts.length + 64
    match skipEnds ts with
    | [] => some []
    | .name "BEGIN" :: rest => do
      let (a, ts) ← readRuleAction size rest
      (readRules n ts).map ((.start, a) :: ·)
    | .name "END" :: rest => do
      let (a, ts) ← readRuleAction size rest
      (readRules n ts).map ((.finish, a) :: ·)
    | .mark "\x7b" :: rest => do
      let (a, ts) ← readBlock size rest
      (readRules n ts).map ((.always, a) :: ·)
    | ts => do
      let (t, ts) ← readTerm size ts
      let (a, ts) ← readRuleAction size ts
      (readRules n ts).map ((.holds t, a) :: ·)

/-- A program. -/
def read? (program : String) : Option (List (When × Action)) :=
  let chars := program.toList
  let ts := readTokens (chars.length + 1) none chars
  readRules (ts.length + 1) ts

/-! ## Running -/

/-- The state of a program. -/
structure State where
  line : String := ""
  bindings : List (String × String) := [("FS", " "), ("NR", "0"), ("FILENAME", ""), ("OFS", " ")]
  written : List String := []

/-- Where the control goes after an action. -/
inductive Flow where
  | next
  | nextLine
  | exit (code : Nat)
deriving DecidableEq, Repr

/-- The value of a variable. -/
def State.value (s : State) (name : String) : String := (s.bindings.lookup name).getD ""

/-- A state with a variable set. -/
def State.set (s : State) (name value : String) : State :=
  { s with bindings := (name, value) :: s.bindings.filter fun v => v.1 != name }

/-- The fields of a line. -/
def State.fields (s : State) : List String :=
  let separator := s.value "FS"
  if separator == " " then (s.line.split fun c => c == ' ' || c == '\t').toList.map (·.toString) |>.filter (· != "")
  else s.line.splitOn separator

/-- The integer that a value counts as. -/
def integer (s : String) : Int :=
  let s := s.trimAscii.toString
  let digits := (if s.startsWith "-" then s.drop 1 else s.drop 0).toString.toList.takeWhile Char.isDigit
  let n : Int := (String.ofList digits).toNat?.getD 0
  if s.startsWith "-" then -n else n

/-- Whether a value counts as true. -/
def truth (s : String) : Bool := s != "" && s != "0"

/-- A truth as a value. -/
def ofTruth (b : Bool) : String := if b then "1" else "0"

/-- Whether a pattern is found in a text. -/
def found (p : List Char) (s : String) : Bool := ((pattern? p).map fun x => x.isMatch s).getD false

/-- Compares two values, as integers if both are. -/
def compareValues (a b : String) : Ordering :=
  match a.toInt?, b.toInt? with
  | some x, some y => compare x y
  | _, _ => compare a b

/-- Applies an operator. -/
def applyBinary (op a b : String) : String :=
  match op with
  | "+" => s!"{integer a + integer b}"
  | "-" => s!"{integer a - integer b}"
  | "*" => s!"{integer a * integer b}"
  | "/" => s!"{Int.tdiv (integer a) (integer b)}"
  | "%" => s!"{Int.tmod (integer a) (integer b)}"
  | "<" => ofTruth (compareValues a b == .lt)
  | ">" => ofTruth (compareValues a b == .gt)
  | "<=" => ofTruth (compareValues a b != .gt)
  | ">=" => ofTruth (compareValues a b != .lt)
  | "==" => ofTruth (compareValues a b == .eq)
  | "!=" => ofTruth (compareValues a b != .eq)
  | "&&" => ofTruth (truth a && truth b)
  | "||" => ofTruth (truth a || truth b)
  | "~" => ofTruth (found b.toList a)
  | "!~" => ofTruth (!found b.toList a)
  | _ => a ++ b

/-- The value of an expression. -/
def eval : Term → StateM State String
  | .text s => return s
  | .number n => return s!"{n}"
  | .matched p => do return ofTruth (found p (← get).line)
  | .variable name => do
    let s ← get
    return if name == "NF" then s!"{s.fields.length}" else s.value name
  | .field t => do
    let n := (integer (← eval t)).toNat
    let s ← get
    return if n = 0 then s.line else s.fields[n - 1]?.getD ""
  | .assign name op t => do
    let value ← eval t
    let old := (← get).value name
    let value :=
      match op with
      | "+=" => s!"{integer old + integer value}"
      | "-=" => s!"{integer old - integer value}"
      | _ => value
    modify (·.set name value)
    return value
  | .unary "-" t => do
    let value := 0 - integer (← eval t)
    return s!"{value}"
  | .unary _ t => do return ofTruth (!truth (← eval t))
  | .binary op a (.matched p) => do
    let value ← eval a
    match op with
    | "~" => return ofTruth (found p value)
    | "!~" => return ofTruth (!found p value)
    | _ => return applyBinary op value (ofTruth (found p (← get).line))
  | .binary op a b => do
    let x ← eval a
    let y ← eval b
    return applyBinary op x y

/-- Carries out an action. -/
def act : Action → StateM State Flow
  | .skip => return .next
  | .seq a b => do
    match ← act a with
    | .next => act b
    | flow => return flow
  | .print ts => do
    let values ← ts.mapM eval
    let s ← get
    let text := if ts.isEmpty then s.line else (s.value "OFS").intercalate values
    set { s with written := (text ++ "\n") :: s.written }
    return .next
  | .eval t => do
    let _ ← eval t
    return .next
  | .exit none => return .exit 0
  | .exit (some t) => do return .exit ((integer (← eval t)).toNat % 256)
  | .nextLine => return .nextLine
  | .branch c yes no => do if truth (← eval c) then act yes else act no

/-- Carries out the rules that apply, up to one that leads elsewhere. -/
def actAll (applies : When → StateM State Bool) : List (When × Action) → StateM State Flow
  | [] => return .next
  | (w, a) :: rest => do
    if ← applies w then
      match ← act a with
      | .next => actAll applies rest
      | flow => return flow
    else actAll applies rest

/-- Whether a rule applies to a line. -/
def appliesToLine : When → StateM State Bool
  | .always => return true
  | .holds t => do return truth (← eval t)
  | _ => return false

/-- Carries out the rules on lines, up to the end of the program. -/
def actLines (rules : List (When × Action)) : List String → StateM State Flow
  | [] => return .next
  | line :: rest => do
    modify fun s =>
      let count := integer (s.value "NR") + 1
      { (s.set "NR" s!"{count}") with line }
    match ← actAll appliesToLine rules with
    | .exit code => return .exit code
    | _ => actLines rules rest

/-- Carries out the rules on files. -/
def actFiles (rules : List (When × Action)) : List (String × List String) → StateM State Flow
  | [] => return .next
  | (name, lines) :: rest => do
    modify (·.set "FILENAME" name)
    match ← actLines rules lines with
    | .next => actFiles rules rest
    | flow => return flow

/-- Carries out a program: its start, the lines of all files, and its end. -/
def runRules (rules : List (When × Action)) (files : List (String × List String)) : StateM State Nat := do
  let code (flow : Flow) (otherwise : Nat) : Nat :=
    match flow with
    | .exit c => c
    | _ => otherwise
  let isStart : When → StateM State Bool := fun w => return match w with | .start => true | _ => false
  let isFinish : When → StateM State Bool := fun w => return match w with | .finish => true | _ => false
  let begun ← actAll isStart rules
  match begun with
  | .exit c => return c
  | _ =>
    let read ← if rules.any (fun r => match r.1 with | .start => false | _ => true) then actFiles rules files
      else pure .next
    return code (← actAll isFinish rules) (code read 0)

/-- Runs a program on files. -/
def run (program : String) (assigned : List (String × String)) (files : List (String × List String)) : Result :=
  match read? program with
  | none => .failure 2 "awk: syntax error\n"
  | some rules =>
    let start : State := assigned.foldl (fun s a => s.set a.1 a.2) {}
    let (code, s) := (runRules rules files).run start
    { status := .exit code, out := Bytes.ofText (String.join s.written.reverse) }

end LintGate.Sandbox.Tools.Awk
