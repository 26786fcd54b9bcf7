/-
Shell scripts.

A word is made of parts that are expanded when the word is used. Scripts inside of
words are kept as text and read when their output is wanted.
-/

set_option autoImplicit false

namespace LintGate.Sandbox.Shell

/-- A part of a word. Quoted parts are neither split nor matched against files. -/
inductive Piece where
  | text (s : String) (quoted : Bool)
  /-- A variable, and what is to be done with its value. -/
  | variable (name operator operand : String) (quoted : Bool)
  /-- The output of a script. -/
  | output (script : String) (quoted : Bool)
  /-- The value of an expression. -/
  | arithmetic (body : String) (quoted : Bool)
deriving DecidableEq, Repr

/-- A word. -/
abbrev Word := List Piece

/-- Where a stream of a command goes. -/
inductive Target where
  /-- Where another stream goes. -/
  | stream (number : Nat)
  /-- A file, at its end or from its start. -/
  | file (path : Word) (atEnd : Bool)
  /-- A file to be read. -/
  | input (path : Word)
  /-- A text in the script itself. -/
  | document (text : Word)
deriving DecidableEq, Repr

/-- The redirection of a stream. -/
structure Redirect where
  stream : Nat
  target : Target
deriving DecidableEq, Repr

/-- A command. -/
inductive Command where
  | nothing
  /-- A program and its words, on a line of the script. -/
  | simple (line : Nat) (assignments : List (String × Word)) (words : List Word) (redirects : List Redirect)
  | pipe (left right : Command)
  | seq (left right : Command)
  | both (left right : Command)
  | either (left right : Command)
  | not (c : Command)
  | loop (until_ : Bool) (condition body : Command)
  | branch (condition yes no : Command)
  | each (name : String) (words : Option (List Word)) (body : Command)
  /-- A choice by patterns; its arms are a chain. -/
  | choose (word : Word) (arms : Command)
  | arm (patterns : List Word) (body rest : Command)
  | group (body : Command) (redirects : List Redirect)
  | subshell (body : Command) (redirects : List Redirect)
  /-- A command of one's own. -/
  | define (name : String) (body : Command)
deriving Repr

/-- A token of a script. -/
inductive Token where
  | word (w : Word) (line : Nat)
  | mark (s : String)
  | redirect (stream : Nat) (mark : String)
deriving DecidableEq, Repr

/-! ## Tokens -/

/-- Whether a character ends a word that is not quoted. -/
def endsWord (c : Char) : Bool := " \t\n;&|()<>".toList.contains c

/-- Whether a character may begin the name of a variable. -/
def startsName (c : Char) : Bool := c.isAlpha || c == '_'

/-- Whether a character may be part of the name of a variable. -/
def inName (c : Char) : Bool := c.isAlphanum || c == '_'

/-- The text up to the character that closes what was opened, and what follows. Quotes are respected;
`depth` counts what was opened inside. -/
def spanClosing (opening closing : Char) : Nat → Option Char → List Char → Option (List Char × List Char)
  | _, _, [] => none
  | depth, some q, c :: rest =>
    (spanClosing opening closing depth (if c = q then none else some q) rest).map fun (s, r) => (c :: s, r)
  | depth, none, c :: rest =>
    if c = closing then
      match depth with
      | 0 => some ([], rest)
      | depth + 1 => (spanClosing opening closing depth none rest).map fun (s, r) => (c :: s, r)
    else
      let depth := if c = opening then depth + 1 else depth
      let quote := if c = '\'' || c = '"' then some c else none
      (spanClosing opening closing depth quote rest).map fun (s, r) => (c :: s, r)

/-- The text up to a closing backtick, and what follows. -/
def spanBacktick : List Char → Option (List Char × List Char)
  | [] => none
  | '\x60' :: rest => some ([], rest)
  | '\\' :: c :: rest => (spanBacktick rest).map fun (s, r) => ('\\' :: c :: s, r)
  | c :: rest => (spanBacktick rest).map fun (s, r) => (c :: s, r)

/-- The operators that may follow a variable's name in braces. -/
def operators : List String := [":-", ":=", ":+", ":?", "-", "=", "+", "?", "%%", "%", "##", "#"]

/-- The variable in the text between braces. -/
def bracedVariable (s : List Char) (quoted : Bool) : Piece :=
  let name :=
    match s with
    | c :: _ => if startsName c then s.takeWhile inName else if c.isDigit then s.takeWhile Char.isDigit else [c]
    | [] => []
  let rest := s.drop name.length
  if name == ['#'] && !rest.isEmpty then .variable (String.ofList rest) "size" "" quoted
  else
    match operators.find? fun o => o.toList.isPrefixOf rest with
    | some o => .variable (String.ofList name) o (String.ofList (rest.drop o.length)) quoted
    | none => .variable (String.ofList name) "" "" quoted

/-- What a dollar sign begins, and what follows it. -/
def readDollar (quoted : Bool) (s : List Char) : Option (Piece × List Char) :=
  match s with
  | '(' :: '(' :: rest =>
    match spanClosing '(' ')' 0 none rest with
    | some (body, ')' :: rest) => some (.arithmetic (String.ofList body) quoted, rest)
    | _ => none
  | '(' :: rest =>
    (spanClosing '(' ')' 0 none rest).map fun (body, rest) => (.output (String.ofList body) quoted, rest)
  | '\x7b' :: rest =>
    (spanClosing '\x7b' '\x7d' 0 none rest).map fun (body, rest) => (bracedVariable body quoted, rest)
  | c :: rest =>
    if startsName c then
      some (.variable (String.ofList (s.takeWhile inName)) "" "" quoted, s.dropWhile inName)
    else if c.isDigit || "@*#?$!-".toList.contains c then
      some (.variable c.toString "" "" quoted, rest)
    else some (.text "$" quoted, s)
  | [] => some (.text "$" quoted, [])

/-- The parts of a text between double quotes, and what follows the closing quote. -/
def readDouble : Nat → List Char → Option (Word × List Char)
  | 0, _ => none
  | _ + 1, [] => none
  | _ + 1, '"' :: rest => some ([], rest)
  | n + 1, '\\' :: c :: rest =>
    let kept := if c = '\n' then "" else if "$\x60\"\\".toList.contains c then c.toString else "\\" ++ c.toString
    (readDouble n rest).map fun (w, r) => (.text kept true :: w, r)
  | n + 1, '$' :: rest =>
    (readDollar true rest).bind fun (p, rest) => (readDouble n rest).map fun (w, r) => (p :: w, r)
  | n + 1, '\x60' :: rest =>
    (spanBacktick rest).bind fun (body, rest) =>
      (readDouble n rest).map fun (w, r) => (.output (String.ofList body) true :: w, r)
  | n + 1, c :: rest => (readDouble n rest).map fun (w, r) => (.text c.toString true :: w, r)

/-- A word, and what follows it. The number bounds its parts. -/
def readWord : Nat → List Char → Option (Word × List Char)
  | 0, _ => none
  | _ + 1, [] => some ([], [])
  | n + 1, c :: rest =>
    if endsWord c then some ([], c :: rest)
    else if c = '\'' then
      let body := rest.takeWhile (· != '\'')
      match rest.drop body.length with
      | _ :: rest => (readWord n rest).map fun (w, r) => (.text (String.ofList body) true :: w, r)
      | [] => none
    else if c = '"' then
      (readDouble (rest.length + 1) rest).bind fun (ps, rest) =>
        (readWord n rest).map fun (w, r) => (.text "" true :: ps ++ w, r)
    else if c = '\\' then
      match rest with
      | '\n' :: rest => readWord n rest
      | d :: rest => (readWord n rest).map fun (w, r) => (.text d.toString true :: w, r)
      | [] => some ([.text "\\" true], [])
    else if c = '$' then
      (readDollar false rest).bind fun (p, rest) => (readWord n rest).map fun (w, r) => (p :: w, r)
    else if c = '\x60' then
      (spanBacktick rest).bind fun (body, rest) =>
        (readWord n rest).map fun (w, r) => (.output (String.ofList body) false :: w, r)
    else (readWord n rest).map fun (w, r) => (.text c.toString false :: w, r)

/-- Joins neighbouring texts. -/
def joinTexts : Word → Word
  | .text s q :: rest =>
    match joinTexts rest with
    | .text t r :: more => if q = r then .text (s ++ t) q :: more else .text s q :: .text t r :: more
    | more => .text s q :: more
  | p :: rest => p :: joinTexts rest
  | [] => []

/-- The marks of a script, longer ones first. -/
def marks : List String := ["&&", "||", ";;", ";", "&", "|", "(", ")", "\n"]

/-- The marks of redirections, longer ones first. -/
def redirectMarks : List String := ["<<-", "<<", ">>", ">&", ">|", "<&", ">", "<"]

/-- The mark at the front of a text. -/
def markAt (candidates : List String) (s : List Char) : Option String :=
  candidates.find? fun m => m.toList.isPrefixOf s

/-- The lines of a text in a script, up to the one that ends it, and what follows. -/
def spanDocument (strip : Bool) (delimiter : String) : Nat → List Char → List Char × List Char
  | 0, s => ([], s)
  | _, [] => ([], [])
  | n + 1, s =>
    let line := s.takeWhile (· != '\n')
    let rest := (s.drop line.length).drop 1
    let line := if strip then line.dropWhile (· == '\t') else line
    if String.ofList line == delimiter then ([], rest)
    else
      let (body, rest) := spanDocument strip delimiter n rest
      (line ++ '\n' :: body, rest)

/-- The text of a word. -/
def wordText (w : Word) : String :=
  String.join (w.map fun
    | .text s _ => s
    | _ => "")

/-- Whether a part of a word is quoted. -/
def isQuotedWord (w : Word) : Bool :=
  w.any fun
    | .text _ quoted => quoted
    | _ => false

/-- A text in a script as a word. Its quotes are plain characters. -/
def documentWord (quoted : Bool) (body : List Char) : Option Word :=
  if quoted then some [.text (String.ofList body) true]
  else
    let escaped := body.flatMap fun c => if c = '"' then ['\\', '"'] else [c]
    (readDouble (escaped.length + 2) (escaped ++ ['"'])).map fun r => .text "" true :: r.1

/-- The tokens of a script, of which the lines are counted from the end. The number bounds them. -/
def readTokens (lines : Nat) : Nat → List Char → Option (List Token)
  | 0, _ => none
  | n + 1, s =>
    match s.dropWhile fun c => c == ' ' || c == '\t' with
    | [] => some []
    | '#' :: rest => readTokens lines n (rest.dropWhile (· != '\n'))
    | '\\' :: '\n' :: rest => readTokens lines n rest
    | c :: rest =>
      let line := lines - (c :: rest).count '\n' + 1
      let digits := (c :: rest).takeWhile Char.isDigit
      let behind := (c :: rest).drop digits.length
      match markAt redirectMarks behind with
      | some m =>
        let stream :=
          if digits.isEmpty then (if m.startsWith "<" then 0 else 1)
          else (String.ofList digits).toNat?.getD 1
        if m.startsWith "<<" then
          (readWord (behind.length + 1) ((behind.drop m.length).dropWhile (· == ' '))).bind fun (w, rest) =>
            let here := rest.takeWhile (· != '\n')
            let (body, after) := spanDocument (m == "<<-") (wordText w) rest.length ((rest.drop here.length).drop 1)
            (documentWord (isQuotedWord w) body).bind fun d =>
              (readTokens lines n (here ++ '\n' :: after)).map fun ts => .redirect stream "<<" :: .word d line :: ts
        else (readTokens lines n (behind.drop m.length)).map (.redirect stream m :: ·)
      | none =>
        match markAt marks (c :: rest) with
        | some m => (readTokens lines n ((c :: rest).drop m.length)).map (.mark m :: ·)
        | none =>
          (readWord (rest.length + 2) (c :: rest)).bind fun (w, rest) =>
            (readTokens lines n rest).map (.word (joinTexts w) line :: ·)

end LintGate.Sandbox.Shell
