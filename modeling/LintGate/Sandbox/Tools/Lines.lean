/-
Tools that go through lines.
-/
import LintGate.Sandbox.Process
import LintGate.Sandbox.Tools.Search
import LintGate.Text.Lines

set_option autoImplicit false

namespace LintGate.Sandbox.Tools

/-- The lines of a text, without their ends. -/
def linesOf (s : String) : List String :=
  let pieces := Text.pieces s
  if pieces.getLast? == some "" then pieces.dropLast else pieces

/-- The lines of bytes. -/
def linesOfBytes (b : Bytes) : List String := linesOf (Bytes.lossyText b)

/-- Lines as a text. -/
def unlines (ls : List String) : String := String.join (ls.map (· ++ "\n"))

/-- The contents that a tool is given: its files, or its input when it is given none. Files that cannot
be read are told. -/
def sources (disk : Folder) (call : Call) (tool : String) (files : List String) :
    List (String × Bytes) × List String :=
  if files.isEmpty then ([("-", call.input)], [])
  else
    files.foldl (fun (found, errors) f =>
      if f == "-" then (found ++ [("-", call.input)], errors)
      else
        match disk.readAt (call.resolve f) with
        | .ok b => (found ++ [(f, b)], errors)
        | .error .isDirectory => (found, errors ++ [tool ++ ": " ++ f ++ ": Is a directory\n"])
        | .error _ => (found, errors ++ [tool ++ ": " ++ f ++ ": No such file or directory\n"])) ([], [])

/-- Takes single letters apart that were written behind one dash. -/
def letters (s : String) : List Char := s.toList.drop 1

/-- Whether a word is an option. -/
def isOption (s : String) : Bool := s.startsWith "-" && s != "-"

/-! ## Searching -/

/-- How to search. -/
structure SearchOptions where
  flags : List Char := []
  patterns : List String := []
  files : List String := []
  /-- How many lines of a file are enough. -/
  most : Option Nat := none

/-- Reads the words of a search. Without a pattern among the options, the first other word is it. -/
def searchOptions : List String → SearchOptions → SearchOptions
  | [], o => o
  | "-e" :: p :: rest, o => searchOptions rest { o with patterns := o.patterns ++ [p] }
  | "-m" :: n :: rest, o => searchOptions rest { o with most := n.toNat? }
  | "--" :: rest, o => { o with files := o.files ++ rest }
  | w :: rest, o =>
    if w.startsWith "-m" then searchOptions rest { o with most := (w.drop 2).toNat? }
    else if isOption w then searchOptions rest { o with flags := o.flags ++ letters w }
    else searchOptions rest { o with files := o.files ++ [w] }

/-- A search whose pattern is told. -/
def SearchOptions.withPattern (o : SearchOptions) : SearchOptions :=
  if o.patterns.isEmpty then { o with patterns := o.files.take 1, files := o.files.drop 1 } else o

/-- The text of a pattern in the newer notation. -/
def searchPattern (flags : List Char) (p : String) : List Char :=
  let core :=
    if flags.contains 'F' then literally p.toList
    else if flags.contains 'E' then p.toList
    else modernize p.toList
  let core := if flags.contains 'x' then "^(?:".toList ++ core ++ ")$".toList else core
  let core := if flags.contains 'w' then "\\b(?:".toList ++ core ++ ")\\b".toList else core
  if flags.contains 'i' then "(?i)".toList ++ core else core

/-- The matches in a text that are not empty, from left to right. The number bounds them. -/
def foundParts (x : Pattern.Expr) (text : Array Char) : Nat → Nat → List String
  | 0, _ => []
  | n + 1, start =>
    match firstMatch? x text start with
    | none => []
    | some (i, e) =>
      if e = i then foundParts x text n (e + 1)
      else String.ofList ((text.toList.take e).drop i) :: foundParts x text n e

/-- What a search prints of a file. -/
def searchReport (o : SearchOptions) (x : Pattern.Expr) (named : Bool) (name : String)
    (hits : List (String × Nat)) : String :=
  let shown (line : String) : String := (if named then name ++ ":" ++ line else line) ++ "\n"
  let numbered (i : Nat) (line : String) : String := if o.flags.contains 'n' then s!"{i}:" ++ line else line
  if o.flags.contains 'q' then ""
  else if o.flags.contains 'l' then (if hits.isEmpty then "" else name ++ "\n")
  else if o.flags.contains 'L' then (if hits.isEmpty then name ++ "\n" else "")
  else if o.flags.contains 'c' then shown s!"{hits.length}"
  else if o.flags.contains 'o' then
    String.join (hits.flatMap fun (l, i) =>
      let text := l.toList.toArray
      (foundParts x text (text.size + 1) 0).map fun part => shown (numbered i part))
  else String.join (hits.map fun (l, i) => shown (numbered i l))

/-- Prints the lines that a pattern matches. -/
def grep (disk : Folder) (call : Call) : Result :=
  let o := (searchOptions call.args {}).withPattern
  let choice := "|".toList.intercalate (o.patterns.map fun p => "(?:".toList ++ searchPattern o.flags p ++ [')'])
  match if o.patterns.isEmpty then none else pattern? choice with
  | none => .failure 2 "grep: invalid pattern\n"
  | some x =>
    let (found, errors) := sources disk call "grep" o.files
    let named := o.flags.contains 'H' || (1 < o.files.length && !o.flags.contains 'h')
    let wanted (e : String × Nat) : Bool := x.isMatch e.1 != o.flags.contains 'v'
    let hits := found.map fun (name, b) =>
      let all := ((linesOfBytes b).zipIdx 1).filter wanted
      (name, (o.most.map all.take).getD all)
    let any := hits.any fun h => !h.2.isEmpty
    { status := .exit (if !errors.isEmpty && !(any && o.flags.contains 'q') then 2 else if any then 0 else 1)
      out := Bytes.ofText (String.join (hits.map fun (name, ls) => searchReport o x named name ls))
      err := if o.flags.contains 's' then [] else Bytes.ofText (String.join errors) }

/-! ## Replacing -/

/-- The lines that an edit is for. -/
inductive Address where
  | every
  | line (n : Nat)
  | last
  | matching (pattern : List Char)

/-- What is done to a line. -/
inductive Edit where
  | replace (pattern : List Char) (put : String) (all : Bool)
  | exchange (pairs : List (Char × Char))
  | delete
  | print
  | number
  | quit

/-- The text up to a sign that is not behind a backslash, and what follows it. -/
def spanSign (sign : Char) : List Char → List Char × List Char
  | [] => ([], [])
  | '\\' :: c :: rest =>
    let (s, r) := spanSign sign rest
    (if c = sign then c :: s else '\\' :: c :: s, r)
  | c :: rest => if c = sign then ([], rest) else let (s, r) := spanSign sign rest; (c :: s, r)

/-- What is put in place of a match. -/
def putText (put : List Char) (found : String) : String :=
  match put with
  | '\\' :: 'n' :: rest => "\n" ++ putText rest found
  | '\\' :: c :: rest => c.toString ++ putText rest found
  | '&' :: rest => found ++ putText rest found
  | c :: rest => c.toString ++ putText rest found
  | [] => ""

/-- The address in front of an edit. -/
def readAddress (read : List Char → List Char) (s : List Char) : Address × List Char :=
  match s with
  | '$' :: rest => (.last, rest)
  | '/' :: rest => let (p, rest) := spanSign '/' rest; (.matching (read p), rest)
  | _ =>
    let digits := s.takeWhile Char.isDigit
    match (String.ofList digits).toNat? with
    | some n => (.line n, s.drop digits.length)
    | none => (.every, s)

/-- An edit. -/
def readEdit? (read : List Char → List Char) : List Char → Option (Edit × List Char)
  | 's' :: sign :: rest =>
    let (p, rest) := spanSign sign rest
    let (put, rest) := spanSign sign rest
    let flags := rest.takeWhile fun c => c.isAlphanum
    some (.replace (read p) (String.ofList put) (flags.contains 'g'), rest.drop flags.length)
  | 'y' :: sign :: rest =>
    let (a, rest) := spanSign sign rest
    let (b, rest) := spanSign sign rest
    some (.exchange (a.zip b), rest)
  | 'd' :: rest => some (.delete, rest)
  | 'p' :: rest => some (.print, rest)
  | '=' :: rest => some (.number, rest)
  | 'q' :: rest => some (.quit, rest)
  | _ => none

/-- The edits of a script. The number bounds them. -/
def readEdits (read : List Char → List Char) : Nat → List Char → Option (List (Address × Edit))
  | 0, _ => none
  | n + 1, s =>
    match s.dropWhile fun c => c == ' ' || c == ';' || c == '\n' with
    | [] => some []
    | s => do
      let (address, rest) := readAddress read s
      let (edit, rest) ← readEdit? read rest
      (readEdits read n rest).map ((address, edit) :: ·)

/-- A line while it is edited. -/
structure Edited where
  line : String
  printed : List String := []
  deleted : Bool := false
  quit : Bool := false

/-- Edits a line. -/
def editLine (edits : List (Address × Edit)) (line : String) (number : Nat) (isLast : Bool) : Edited :=
  edits.foldl (fun e (address, edit) =>
    let applies :=
      match address with
      | .every => true
      | .line n => n = number
      | .last => isLast
      | .matching p => ((pattern? p).map fun x => x.isMatch e.line).getD false
    if e.deleted || e.quit || !applies then e
    else
      match edit with
      | .replace p put all =>
        match pattern? p with
        | some x =>
          let text := e.line.toList.toArray
          { e with line := replaceMatches x (putText put.toList) all text (text.size + 1) 0 }
        | none => e
      | .exchange pairs =>
        { e with line := String.ofList (e.line.toList.map fun c => (pairs.lookup c).getD c) }
      | .delete => { e with deleted := true }
      | .print => { e with printed := e.printed ++ [e.line] }
      | .number => { e with printed := e.printed ++ [s!"{number}"] }
      | .quit => { e with quit := true }) { line := line }

/-- Edits lines up to one that ends the work: what is printed, and whether the last line is part of it. -/
def editLines (edits : List (Address × Edit)) (quiet : Bool) : List String → Nat → List String × Bool
  | [], _ => ([], true)
  | l :: rest, n =>
    let e := editLine edits l n rest.isEmpty
    let shown := e.printed ++ if quiet || e.deleted then [] else [e.line]
    if e.quit || rest.isEmpty then (shown, rest.isEmpty && !shown.isEmpty)
    else let (more, reached) := editLines edits quiet rest (n + 1); (shown ++ more, reached)

/-- How to edit. -/
structure EditOptions where
  scripts : List String := []
  files : List String := []
  flags : List Char := []

/-- Reads the words of an editing. -/
def editOptions : List String → EditOptions → EditOptions
  | [], o => o
  | "-e" :: script :: rest, o => editOptions rest { o with scripts := o.scripts ++ [script] }
  | w :: rest, o =>
    if isOption w then editOptions rest { o with flags := o.flags ++ letters w }
    else editOptions rest { o with files := o.files ++ [w] }

/-- Edits the lines of all files. The last line is ended as the last file ends it. -/
def sed (disk : Folder) (call : Call) : Result :=
  let o := editOptions call.args {}
  let (scripts, files) := if o.scripts.isEmpty then (o.files.take 1, o.files.drop 1) else (o.scripts, o.files)
  let read : List Char → List Char := if o.flags.any fun c => c == 'E' || c == 'r' then id else modernize
  let script := "\n".intercalate scripts
  match if scripts.isEmpty then some none else (readEdits read (script.length + 1) script.toList).map some with
  | some none =>
    .failure 1 "Usage: sed [OPTION]... \x7bscript-only-if-no-other-script\x7d [input-file]...\n"
  | none =>
    let shown := (script.toList.dropWhile fun c => c == '/' || c.isDigit).head?
    .failure 1 ("sed: -e expression #1, char 1: unknown command: \x60" ++ (shown.map Char.toString).getD "" ++ "'\n")
  | some (some edits) =>
    let (found, errors) := sources disk call "sed" files
    let texts := found.map fun f => Bytes.lossyText f.2
    let unended := ((texts.filter fun t => !t.isEmpty).getLast?.map fun t => !t.endsWith "\n").getD false
    let (shown, reached) := editLines edits (o.flags.contains 'n') (texts.flatMap linesOf) 1
    let all := unlines shown
    { status := .exit (if errors.isEmpty then 0 else 2)
      out := Bytes.ofText (if unended && reached then (all.dropEnd 1).toString else all)
      err := Bytes.ofText (String.join errors) }

/-! ## Counting and ordering -/

/-- The number of words in bytes. -/
def wordCount (b : Bytes) : Nat :=
  ((Bytes.lossyText b).split fun c => c == ' ' || ('\t' ≤ c && c ≤ '\r')).toList.countP fun w => !w.isEmpty

/-- Puts blanks in front of a text. -/
def padLeft (width : Nat) (s : String) : String := String.ofList (List.replicate (width - s.length) ' ') ++ s

/-- Counts lines, words and bytes. The numbers stand in columns, unless there is only one. -/
def wc (disk : Folder) (call : Call) : Result :=
  let flags := (call.args.filter isOption).flatMap letters
  let files := call.args.filter fun a => !isOption a
  let (found, errors) := sources disk call "wc" files
  let wanted := "lwmc".toList.filter fun c => if flags.isEmpty then c != 'm' else flags.contains c
  let count (b : Bytes) (c : Char) : Nat :=
    match c with
    | 'l' => b.countP (· == 10)
    | 'w' => wordCount b
    | _ => b.length
  let rows := found.map fun (name, b) => (if files.isEmpty then "" else " " ++ name, wanted.map (count b))
  let total := wanted.map fun c => found.foldl (fun n f => n + count f.2 c) 0
  let rows := if 1 < files.length then rows ++ [(" total", total)] else rows
  let width :=
    if wanted.length = 1 && files.length ≤ 1 then 1
    else if files.isEmpty || files.contains "-" then 7
    else (toString (found.foldl (fun n f => n + f.2.length) 0)).length
  let shown := rows.map fun (name, ns) =>
    " ".intercalate (ns.map fun (n : Nat) => padLeft width (toString n)) ++ name ++ "\n"
  { status := .exit (if errors.isEmpty then 0 else 1), out := Bytes.ofText (String.join shown),
    err := Bytes.ofText (String.join errors) }

/-- Takes out neighbours that are the same. -/
def withoutRepeats : List String → List String
  | a :: b :: rest => if a = b then withoutRepeats (b :: rest) else a :: withoutRepeats (b :: rest)
  | other => other

/-- Sorts lines. -/
def sort (disk : Folder) (call : Call) : Result :=
  let flags := (call.args.filter isOption).flatMap letters
  let (found, errors) := sources disk call "sort" (call.args.filter fun a => !isOption a)
  let lines := found.flatMap fun f => linesOfBytes f.2
  let number (s : String) : Int := (s.trimAscii.toInt?).getD 0
  let sorted := lines.mergeSort fun a b =>
    if flags.contains 'n' then number a ≤ number b else !(b < a)
  let sorted := if flags.contains 'r' then sorted.reverse else sorted
  let sorted := if flags.contains 'u' then withoutRepeats sorted else sorted
  { status := .exit (if errors.isEmpty then 0 else 2), out := Bytes.ofText (unlines sorted),
    err := Bytes.ofText (String.join errors) }

/-- Neighbours that are the same, with their number. -/
def runsOf (ls : List String) : List (String × Nat) :=
  ls.foldr (fun l runs =>
    match runs with
    | (k, n) :: rest => if k = l then (k, n + 1) :: rest else (l, 1) :: runs
    | [] => [(l, 1)]) []

/-- Takes out repeated lines. -/
def uniq (disk : Folder) (call : Call) : Result :=
  let flags := (call.args.filter isOption).flatMap letters
  let (found, _) := sources disk call "uniq" (call.args.filter fun a => !isOption a)
  let runs := (runsOf (found.flatMap fun f => linesOfBytes f.2)).filter fun r =>
    (!flags.contains 'd' || 1 < r.2) && (!flags.contains 'u' || r.2 = 1)
  .text (unlines (runs.map fun (l, n) => if flags.contains 'c' then padLeft 7 (toString n) ++ " " ++ l else l))

/-- Bounds of a cut, both included. -/
def readSpan (s : String) : Nat × Nat :=
  match s.splitOn "-" with
  | [n] => (n.toNat?.getD 0, n.toNat?.getD 0)
  | lo :: hi :: _ => (lo.toNat?.getD 1, hi.toNat?.getD 1000000)
  | [] => (0, 0)

/-- Prints parts of lines: fields or characters. -/
def cut (disk : Folder) (call : Call) : Result :=
  let rec read : List String → List (Char × String) → List String → List (Char × String) × List String
    | [], set, files => (set, files)
    | "-d" :: v :: rest, set, files => read rest (('d', v) :: set) files
    | "-f" :: v :: rest, set, files => read rest (('f', v) :: set) files
    | "-c" :: v :: rest, set, files => read rest (('c', v) :: set) files
    | w :: rest, set, files =>
      match isOption w, letters w with
      | true, c :: v => read rest ((c, String.ofList v) :: set) files
      | _, _ => read rest set (files ++ [w])
  let (set, files) := read call.args [] []
  let (found, errors) := sources disk call "cut" files
  let chosen := (set.lookup 'f').orElse fun _ => (set.lookup 'c').orElse fun _ => set.lookup 'b'
  let spans := (chosen.getD "").splitOn ","
  let kept {α : Type} (xs : List α) : List α :=
    ((xs.zipIdx 1).filter fun x => spans.any fun s => (readSpan s).1 ≤ x.2 && x.2 ≤ (readSpan s).2).map (·.1)
  let mark := (set.lookup 'd').getD "\t"
  let shown (line : String) : List String :=
    if (set.lookup 'f').isNone then [String.ofList (kept line.toList)]
    else
      let fields := line.splitOn mark
      if fields.length ≤ 1 then (if (set.lookup 's').isSome then [] else [line])
      else [mark.intercalate (kept fields)]
  { status := .exit (if errors.isEmpty then 0 else 1)
    out := Bytes.ofText (unlines ((found.flatMap fun f => linesOfBytes f.2).flatMap shown))
    err := Bytes.ofText (String.join errors) }

/-- How much of a text is taken: units of lines or bytes, a number, and whether it counts from the start. -/
structure Amount where
  bytes : Bool := false
  number : Nat := 10
  fromStart : Bool := false
  /-- Whether it is the rest that is counted. -/
  leaves : Bool := false

/-- Reads an amount and files. -/
def readAmount : List String → Amount → List String → Amount × List String
  | [], a, files => (a, files)
  | w :: rest, a, files =>
    let set (bytes : Bool) (s : String) : Amount :=
      ⟨bytes, ((if s.startsWith "+" || s.startsWith "-" then (s.drop 1).toString else s).toNat?).getD 0,
        s.startsWith "+", s.startsWith "-"⟩
    match w with
    | "-c" => readAmount (rest.drop 1) (set true (rest.headD "")) files
    | "-n" => readAmount (rest.drop 1) (set false (rest.headD "")) files
    | "-q" => readAmount rest a files
    | _ =>
      if isOption w then
        let body := (w.drop 1).toString
        if body.startsWith "c" then readAmount rest (set true (body.drop 1).toString) files
        else if body.startsWith "n" then readAmount rest (set false (body.drop 1).toString) files
        else readAmount rest (set false body) files
      else readAmount rest a (files ++ [w])
termination_by ws => ws.length
decreasing_by all_goals (simp only [List.length_drop, List.length_cons]; omega)

/-- Bytes cut into lines with their ends. -/
def byteLines (b : Bytes) : List Bytes :=
  (b.foldr (fun c ls =>
    match ls with
    | l :: rest => if c = 10 then [c] :: l :: rest else (c :: l) :: rest
    | [] => [[c]]) []).filter fun l => !l.isEmpty

/-- The front of a text. -/
def front (a : Amount) (b : Bytes) : Bytes :=
  let number (all : Nat) : Nat := if a.leaves then all - a.number else a.number
  if a.bytes then b.take (number b.length)
  else let ls := byteLines b; (ls.take (number ls.length)).flatten

/-- The end of a text. -/
def back (a : Amount) (b : Bytes) : Bytes :=
  if a.bytes then (if a.fromStart then b.drop (a.number - 1) else b.drop (b.length - a.number))
  else
    let ls := byteLines b
    ((if a.fromStart then ls.drop (a.number - 1) else ls.drop (ls.length - a.number))).flatten

/-- Prints a part of each file. -/
def portion (cut : Amount → Bytes → Bytes) (tool : String) (disk : Folder) (call : Call) : Result :=
  let (a, files) := readAmount call.args {} []
  let (found, errors) := sources disk call tool files
  let shown := found.zipIdx.map fun ((name, b), i) =>
    let title := if found.length ≤ 1 then [] else
      Bytes.ofText ((if i = 0 then "" else "\n") ++ "==> " ++ name ++ " <==\n")
    title ++ cut a b
  { status := .exit (if errors.isEmpty then 0 else 1), out := shown.flatten,
    err := Bytes.ofText (String.join errors) }

end LintGate.Sandbox.Tools
