/-
Words of a command line.

Words are separated by spaces, tabs and line feeds. Between single quotes every
character stands for itself; between double quotes a backslash escapes only a few;
outside quotes it escapes every character. An escaped line feed vanishes. A hash
sign where a word might begin starts a comment. A quote that is not closed and a
backslash at the end make the line invalid.
-/

set_option autoImplicit false

namespace LintGate.Text

/-- Where the reading of a command line stands. -/
inductive Reading where
  /-- Between words. -/
  | between
  /-- In a comment. -/
  | comment
  /-- In a word. -/
  | word
  /-- Behind a backslash in a word. -/
  | escape
  /-- Between single quotes. -/
  | single
  /-- Between double quotes. -/
  | double
  /-- Behind a backslash between double quotes. -/
  | doubleEscape
deriving DecidableEq, Repr

/-- Whether a character separates words. -/
def separatesWords (c : Char) : Bool := c == ' ' || c == '\t' || c == '\n'

/-- Whether a backslash between double quotes escapes a character. -/
def isDoubleEscaped (c : Char) : Bool := c == '$' || c == '\x60' || c == '"' || c == '\\'

/-- The words of characters. `word` holds the word that is being read, its last character first. -/
def readWords : Reading → List Char → List Char → Option (List (List Char))
  | .between, _, [] => some []
  | .comment, _, [] => some []
  | .word, word, [] => some [word.reverse]
  | _, _, [] => none
  | .between, word, c :: rest =>
    if separatesWords c then readWords .between word rest
    else if c = '#' then readWords .comment [] rest
    else if c = '\'' then readWords .single [] rest
    else if c = '"' then readWords .double [] rest
    else if c = '\\' then readWords .escape [] rest
    else readWords .word [c] rest
  | .comment, word, c :: rest => readWords (if c = '\n' then .between else .comment) word rest
  | .word, word, c :: rest =>
    if separatesWords c then (readWords .between [] rest).map (word.reverse :: ·)
    else if c = '\'' then readWords .single word rest
    else if c = '"' then readWords .double word rest
    else if c = '\\' then readWords .escape word rest
    else readWords .word (c :: word) rest
  | .escape, word, c :: rest => readWords .word (if c = '\n' then word else c :: word) rest
  | .single, word, c :: rest =>
    if c = '\'' then readWords .word word rest else readWords .single (c :: word) rest
  | .double, word, c :: rest =>
    if c = '"' then readWords .word word rest
    else if c = '\\' then readWords .doubleEscape word rest
    else readWords .double (c :: word) rest
  | .doubleEscape, word, c :: rest =>
    if isDoubleEscaped c then readWords .double (c :: word) rest
    else if c = '\n' then readWords .double word rest
    else readWords .double (c :: '\\' :: word) rest

/-- The words of a command line, if it is valid. -/
def words? (s : String) : Option (List String) :=
  (readWords .between [] s.toList).map fun ws => ws.map String.ofList

end LintGate.Text
