/-
Reading shell scripts.

Each reader takes tokens from the front and answers what is left, or nothing when the
script is malformed. The number that a reader takes bounds the depth of its calls.
-/
import LintGate.Sandbox.Shell.Syntax

set_option autoImplicit false

namespace LintGate.Sandbox.Shell

/-- The text of a word that is a single unquoted text. -/
def plain? : Word → Option String
  | [.text s false] => some s
  | _ => none

/-- Whether a token is a given reserved word. -/
def isReserved (s : String) : Token → Bool
  | .word w _ => plain? w == some s
  | _ => false

/-- Takes a reserved word. -/
def expect (s : String) : List Token → Option (List Token)
  | t :: rest => if isReserved s t then some rest else none
  | [] => none

/-- Drops the line ends in front. -/
def skipLines (ts : List Token) : List Token := ts.dropWhile (· == .mark "\n")

/-- The words that end a list of commands. -/
def closers : List String := ["then", "elif", "else", "fi", "do", "done", "esac", "\x7d"]

/-- Whether a list of commands ends here. -/
def atEnd : List Token → Bool
  | [] => true
  | .mark m :: _ => m == ")" || m == ";;"
  | t :: _ => closers.any fun c => isReserved c t

/-- The redirection of a mark and the word behind it. -/
def redirectOf (stream : Nat) (mark : String) (w : Word) : Redirect :=
  match mark with
  | "<<" => ⟨stream, .document w⟩
  | "<" => ⟨stream, .input w⟩
  | ">>" => ⟨stream, .file w true⟩
  | ">" => ⟨stream, .file w false⟩
  | ">|" => ⟨stream, .file w false⟩
  | _ => ⟨stream, .stream (((plain? w).bind (·.toNat?)).getD 1)⟩

/-- Redirections in front. -/
def readRedirects : List Token → List Redirect × List Token
  | .redirect n m :: .word w _ :: rest =>
    let (more, rest) := readRedirects rest
    (redirectOf n m w :: more, rest)
  | rest => ([], rest)

/-- The assignment that a word is. -/
def assignment? (w : Word) : Option (String × Word) :=
  match w with
  | .text s false :: rest =>
    let name := s.toList.takeWhile inName
    match s.toList.drop name.length with
    | '=' :: value =>
      if (name.head?.map startsName).getD false then
        some (String.ofList name,
          if value.isEmpty then rest else .text (String.ofList value) false :: rest)
      else none
    | _ => none
  | _ => none

/-- The words and redirections of a simple command on a line. -/
def readSimple (line : Nat) : List Token → List (String × Word) → List Word → List Redirect → Command × List Token
  | .word w _ :: rest, as, ws, rs =>
    match ws, assignment? w with
    | [], some a => readSimple line rest (as ++ [a]) [] rs
    | _, _ => readSimple line rest as (ws ++ [w]) rs
  | .redirect n m :: .word w _ :: rest, as, ws, rs => readSimple line rest as ws (rs ++ [redirectOf n m w])
  | rest, as, ws, rs => (.simple line as ws rs, rest)

/-- The line of the first word. -/
def lineOf : List Token → Nat
  | .word _ line :: _ => line
  | _ :: rest => lineOf rest
  | [] => 1

/-- Words up to the end of a line or a semicolon. -/
def readWords : List Token → List Word × List Token
  | .word w _ :: rest =>
    let (ws, rest) := readWords rest
    (w :: ws, rest)
  | .mark ";" :: rest => ([], rest)
  | .mark "\n" :: rest => ([], rest)
  | rest => ([], rest)

/-- The patterns of an arm, up to its closing parenthesis. -/
def readPatterns : List Token → Option (List Word × List Token)
  | .word w _ :: .mark "|" :: rest => (readPatterns rest).map fun (ws, r) => (w :: ws, r)
  | .word w _ :: .mark ")" :: rest => some ([w], rest)
  | _ => none

mutual

/-- Commands one after the other. -/
def readList : Nat → List Token → Option (Command × List Token)
  | 0, _ => none
  | n + 1, ts =>
    let ts := skipLines ts
    if atEnd ts then some (.nothing, ts)
    else
      (readChain n ts).bind fun (first, ts) =>
        match ts with
        | .mark m :: rest =>
          if m == ";" || m == "\n" || m == "&" then
            (readList n rest).map fun (more, ts) =>
              (match more with | .nothing => first | _ => .seq first more, ts)
          else some (first, ts)
        | _ => some (first, ts)

/-- Commands joined by conditions. -/
def readChain : Nat → List Token → Option (Command × List Token)
  | 0, _ => none
  | n + 1, ts => (readPipeline n ts).bind fun (first, ts) => readChainRest n first ts

/-- What follows the first command of a chain. -/
def readChainRest : Nat → Command → List Token → Option (Command × List Token)
  | 0, _, _ => none
  | n + 1, first, ts =>
    match ts with
    | .mark "&&" :: rest =>
      (readPipeline n (skipLines rest)).bind fun (next, ts) => readChainRest n (.both first next) ts
    | .mark "||" :: rest =>
      (readPipeline n (skipLines rest)).bind fun (next, ts) => readChainRest n (.either first next) ts
    | _ => some (first, ts)

/-- Commands joined by pipes. -/
def readPipeline : Nat → List Token → Option (Command × List Token)
  | 0, _ => none
  | n + 1, ts =>
    match ts with
    | t :: rest =>
      if isReserved "!" t then (readPipeline n rest).map fun (c, ts) => (.not c, ts)
      else (readCommand n ts).bind fun (first, ts) => readPipelineRest n first ts
    | [] => none

/-- What follows the first command of a pipeline. -/
def readPipelineRest : Nat → Command → List Token → Option (Command × List Token)
  | 0, _, _ => none
  | n + 1, first, ts =>
    match ts with
    | .mark "|" :: rest =>
      (readCommand n (skipLines rest)).bind fun (next, ts) => readPipelineRest n (.pipe first next) ts
    | _ => some (first, ts)

/-- A list of commands between reserved words; the closing one is taken. -/
def readUntil : Nat → String → List Token → Option (Command × List Token)
  | 0, _, _ => none
  | n + 1, closer, ts =>
    (readList n ts).bind fun (c, ts) => (expect closer ts).map fun ts => (c, ts)

/-- The rest of a condition, after its command. -/
def readBranches : Nat → Command → List Token → Option (Command × List Token)
  | 0, _, _ => none
  | n + 1, condition, ts =>
    (readList n ts).bind fun (yes, ts) =>
      match ts with
      | t :: rest =>
        if isReserved "fi" t then some (.branch condition yes .nothing, rest)
        else if isReserved "else" t then
          (readUntil n "fi" rest).map fun (no, ts) => (.branch condition yes no, ts)
        else if isReserved "elif" t then
          (readUntil n "then" rest).bind fun (next, ts) =>
            (readBranches n next ts).map fun (no, ts) => (.branch condition yes no, ts)
        else none
      | [] => none

/-- The arms of a choice, up to its end. -/
def readArms : Nat → List Token → Option (Command × List Token)
  | 0, _ => none
  | n + 1, ts =>
    match skipLines ts with
    | [] => none
    | t :: rest =>
      if isReserved "esac" t then some (.nothing, rest)
      else
        let start := if t == .mark "(" then rest else t :: rest
        (readPatterns start).bind fun (patterns, ts) =>
          (readList n ts).bind fun (body, ts) =>
            let ts :=
              match ts with
              | .mark ";;" :: rest => rest
              | other => other
            (readArms n ts).map fun (more, ts) => (.arm patterns body more, ts)

/-- A command. -/
def readCommand : Nat → List Token → Option (Command × List Token)
  | 0, _ => none
  | n + 1, ts =>
    match ts with
    | [] => none
    | .mark "(" :: rest =>
      (readList n rest).bind fun (body, ts) =>
        match ts with
        | .mark ")" :: rest =>
          let (rs, rest) := readRedirects rest
          some (.subshell body rs, rest)
        | _ => none
    | .mark _ :: _ => none
    | t :: rest =>
      let redirected (r : Option (Command × List Token)) : Option (Command × List Token) :=
        r.map fun (c, ts) =>
          match readRedirects ts with
          | ([], ts) => (c, ts)
          | (rs, ts) => (.group c rs, ts)
      if isReserved "\x7b" t then redirected (readUntil n "\x7d" rest)
      else if isReserved "if" t then
        redirected ((readUntil n "then" rest).bind fun (condition, ts) => readBranches n condition ts)
      else if isReserved "while" t || isReserved "until" t then
        redirected ((readUntil n "do" rest).bind fun (condition, ts) =>
          (readUntil n "done" ts).map fun (body, ts) =>
            (.loop (isReserved "until" t) condition body, ts))
      else if isReserved "for" t then
        match rest with
        | .word name _ :: rest =>
          let (words, rest) :=
            match expect "in" (skipLines rest) with
            | some rest => let (ws, rest) := readWords rest; (some ws, rest)
            | none => (none, rest.dropWhile (· == .mark ";"))
          redirected ((expect "do" (skipLines rest)).bind fun ts =>
            (readUntil n "done" ts).map fun (body, ts) =>
              (.each ((plain? name).getD "") words body, ts))
        | _ => none
      else if isReserved "case" t then
        match rest with
        | .word w _ :: rest =>
          redirected ((expect "in" (skipLines rest)).bind fun ts =>
            (readArms n ts).map fun (arms, ts) => (.choose w arms, ts))
        | _ => none
      else if atEnd ts then none
      else
        match t, rest with
        | .word name _, .mark "(" :: .mark ")" :: rest =>
          (readCommand n (skipLines rest)).map fun (body, ts) => (.define ((plain? name).getD "") body, ts)
        | _, _ => some (readSimple (lineOf ts) ts [] [] [])

end

/-- Why a script is malformed. -/
inductive SyntaxFault where
  | openQuote
  | openCommand
  | misplaced (token : String)

/-- The text of a fault. -/
def SyntaxFault.text : SyntaxFault → String
  | openQuote => "Unterminated quoted string"
  | openCommand => "end of file unexpected"
  | misplaced token => "\"" ++ token ++ "\" unexpected"

/-- A token as a message has it. -/
def Token.shown : Token → String
  | .word w _ => wordText w
  | .mark "\n" => "newline"
  | .mark m => m
  | .redirect _ m => m

/-- Reads a whole script. -/
def read (script : String) : Except SyntaxFault Command :=
  let chars := script.toList
  match readTokens (chars.count '\n') (2 * chars.length + 2) chars with
  | none => .error .openQuote
  | some ts =>
    match readList (16 * ts.length + 16) ts with
    | some (c, []) => .ok c
    | some (_, t :: _) => .error (.misplaced t.shown)
    | none => .error .openCommand

end LintGate.Sandbox.Shell
