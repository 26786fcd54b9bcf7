/-
Reading patterns.

The grammar is that of regular expressions without back references and without
looking around. Characters stand for themselves apart from
`\ . + * ? ( ) | [ ] { } ^ $`; a lone closing bracket or brace does too. Bracketed
classes nest and combine with `&&`, `--` and `~~`. Flags in a group hold to the
end of the group they are set in.

The reader keeps the open groups on a stack, so that one pass over the characters
suffices; each step takes at least one character.
-/
import LintGate.Pattern.Expr

set_option autoImplicit false

namespace LintGate.Pattern

/-- Why a text is no pattern. -/
inductive Malformed where
  | unclosedGroup
  | unopenedGroup
  | nothingToRepeat
  | repetition
  | unclosedClass
  | classRange
  | escape
  | unsupported
  | flags
  | groupName
  | unknownProperty
  | notText
  | tooLarge
deriving DecidableEq, Repr

/-! ## Flags -/

/-- The flags in force at a place of the pattern. -/
structure Flags where
  ignoreCase : Bool := false
  multiLine : Bool := false
  dotMatchesFeed : Bool := false
  ascii : Bool := false
  anyLineEnd : Bool := false
  verbose : Bool := false
deriving DecidableEq, Repr

namespace Flags

/-- Sets or clears the flag of a letter. -/
def put (f : Flags) (letter : Char) (value : Bool) : Flags :=
  match letter with
  | 'i' => { f with ignoreCase := value }
  | 'm' => { f with multiLine := value }
  | 's' => { f with dotMatchesFeed := value }
  | 'u' => { f with ascii := !value }
  | 'R' => { f with anyLineEnd := value }
  | 'x' => { f with verbose := value }
  | _ => f

end Flags

/-- The letters that name flags. -/
def flagLetters : List Char := ['i', 'm', 's', 'U', 'u', 'R', 'x']

/-- Reads flags up to the `:` or `)` that ends them. `seen` holds the letters and the minus read so
far, `value` whether the next letter sets its flag. -/
def readFlags : List Char → Flags → List Char → Bool → Except Malformed (Flags × Bool × List Char)
  | [], _, _, _ => .error .flags
  | c :: rest, f, seen, value =>
    if c = ':' ∨ c = ')' then
      if seen.head? = some '-' then .error .flags
      else if c = ')' ∧ seen.isEmpty then .error .nothingToRepeat
      else .ok (f, c == ':', rest)
    else if seen.contains c then .error .flags
    else if c = '-' then readFlags rest f (c :: seen) false
    else if flagLetters.contains c then readFlags rest (f.put c value) (c :: seen) value
    else .error .flags

/-! ## Blanks and numbers -/

/-- Drops a comment, up to and with its line feed. -/
def dropComment : List Char → List Char
  | [] => []
  | c :: rest => if c = '\n' then rest else dropComment rest

/-- Drops what a verbose pattern ignores: white space and comments. -/
def skipVerbose : Nat → List Char → List Char
  | 0, cs => cs
  | _, [] => []
  | left + 1, c :: rest =>
    if Unicode.isWhiteSpace c then skipVerbose left rest
    else if c = '#' then skipVerbose left (dropComment rest)
    else c :: rest

/-- Drops what is ignored at this place. -/
def skip (f : Flags) (cs : List Char) : List Char :=
  if f.verbose then skipVerbose cs.length cs else cs

/-- Reads decimal digits; in a verbose pattern blanks may stand between them. -/
def readDigits (f : Flags) : Nat → List Char → List Char → List Char × List Char
  | 0, digits, cs => (digits, cs)
  | left + 1, digits, cs =>
    match cs with
    | c :: rest => if c.isDigit then readDigits f left (digits ++ [c]) (skip f rest) else (digits, cs)
    | [] => (digits, [])

/-- Reads a repetition count with blanks around it. The count is absent when there are no digits. -/
def readCount (f : Flags) (cs : List Char) : Except Malformed (Option Nat × List Char) :=
  let (digits, rest) := readDigits f cs.length [] (cs.dropWhile Unicode.isWhiteSpace)
  let rest := rest.dropWhile Unicode.isWhiteSpace
  let value := digits.foldl (fun n c => 10 * n + (c.toNat - '0'.toNat)) 0
  if digits.isEmpty then .ok (none, rest)
  else if value < UInt32.size then .ok (some value, rest)
  else .error .repetition

/-! ## Escapes -/

/-- What an escape or a plain character stands for. -/
inductive Atom where
  | literal (c : Char)
  | set (s : CharSet)
  | anchor (a : Anchor)
deriving DecidableEq, Repr

/-- The value of a hexadecimal digit of either case. -/
def hexValue? (c : Char) : Option Nat :=
  Unicode.hexDigit? c.toLower

/-- Characters that mean themselves only when escaped, somewhere in a pattern. -/
def isMeta (c : Char) : Bool := "\\.+*?()|[]\x7b\x7d^$#&-~".toList.contains c

/-- The character of a code point that is one. -/
def charOf? (n : Nat) : Option Char := if n.isValidChar then some (Char.ofNat n) else none

/-- Reads `left` hexadecimal digits. -/
def readFixedHex (f : Flags) : Nat → Nat → List Char → Except Malformed (Char × List Char)
  | 0, value, cs =>
    match charOf? value with
    | some c => .ok (c, cs)
    | none => .error .escape
  | left + 1, value, cs =>
    match cs with
    | [] => .error .escape
    | c :: rest =>
      match hexValue? c with
      | some d => readFixedHex f left (16 * value + d) (skip f rest)
      | none => .error .escape

/-- Reads hexadecimal digits up to a closing brace. -/
def readBracedHex (f : Flags) : Nat → Option Nat → List Char → Except Malformed (Char × List Char)
  | 0, _, _ => .error .escape
  | left + 1, value, cs =>
    match cs with
    | [] => .error .escape
    | c :: rest =>
      if c = '\x7d' then
        match value.bind charOf? with
        | some v => .ok (v, skip f rest)
        | none => .error .escape
      else
        match hexValue? c with
        | some d => readBracedHex f left (some (16 * value.getD 0 + d)) (skip f rest)
        | none => .error .escape

/-- Reads a character given by its code point, after the letter that announces it. -/
def readHex (f : Flags) (digits : Nat) (cs : List Char) : Except Malformed (Char × List Char) :=
  match skip f cs with
  | '\x7b' :: rest => readBracedHex f (rest.length + 1) none (skip f rest)
  | cs => readFixedHex f digits 0 cs

/-- The ASCII digits. -/
def asciiDigit : CharSet := .range '0' '9'

/-- The ASCII white space that `\s` means. -/
def asciiSpace : CharSet := .union (.range '\t' '\r') (.single ' ')

/-- The ASCII word characters. -/
def asciiWord : CharSet := .ofRanges [('0', '9'), ('A', 'Z'), ('_', '_'), ('a', 'z')]

/-- The set of a class letter such as `d` or `W`. A complement narrowed to ASCII would match a part
of a character. -/
def perlSet? (f : Flags) (c : Char) : Except Malformed (Option CharSet) :=
  let positive : Option CharSet :=
    match c.toLower with
    | 'd' => some (if f.ascii then asciiDigit else .property .decimalDigit)
    | 's' => some (if f.ascii then asciiSpace else .property .whiteSpace)
    | 'w' => some (if f.ascii then asciiWord else .property .wordCharacter)
    | _ => none
  match positive with
  | none => .ok none
  | some s =>
    if c.isLower then .ok (some s)
    else if f.ascii then .error .notText
    else .ok (some (.compl s))

/-! ## Named properties -/

/-- A property name without case and separators, and without a leading `is`. -/
def normalName (name : List Char) : String :=
  let plain := (name.filter fun c => c != ' ' && c != '_' && c != '-' && c.toNat < 128).map Char.toLower
  let cut : List Char :=
    match plain with
    | 'i' :: 's' :: rest => if rest = ['c'] then plain else rest
    | _ => plain
  String.ofList cut

/-- The names of the general categories. -/
def categoryNames : List (String × Property) :=
  [("l", .majorCategory 'L'), ("letter", .majorCategory 'L'), ("m", .majorCategory 'M'),
   ("mark", .majorCategory 'M'), ("combiningmark", .majorCategory 'M'), ("n", .majorCategory 'N'),
   ("number", .majorCategory 'N'), ("p", .majorCategory 'P'), ("punctuation", .majorCategory 'P'),
   ("punct", .majorCategory 'P'), ("s", .majorCategory 'S'), ("symbol", .majorCategory 'S'),
   ("z", .majorCategory 'Z'), ("separator", .majorCategory 'Z'), ("c", .majorCategory 'C'),
   ("other", .majorCategory 'C'), ("lc", .casedLetter), ("casedletter", .casedLetter),
   ("lu", .category 'L' 'u'), ("uppercaseletter", .category 'L' 'u'),
   ("ll", .category 'L' 'l'), ("lowercaseletter", .category 'L' 'l'),
   ("lt", .category 'L' 't'), ("titlecaseletter", .category 'L' 't'),
   ("lm", .category 'L' 'm'), ("modifierletter", .category 'L' 'm'),
   ("lo", .category 'L' 'o'), ("otherletter", .category 'L' 'o'),
   ("mn", .category 'M' 'n'), ("nonspacingmark", .category 'M' 'n'),
   ("mc", .category 'M' 'c'), ("spacingmark", .category 'M' 'c'),
   ("me", .category 'M' 'e'), ("enclosingmark", .category 'M' 'e'),
   ("nd", .category 'N' 'd'), ("decimalnumber", .category 'N' 'd'), ("digit", .category 'N' 'd'),
   ("nl", .category 'N' 'l'), ("letternumber", .category 'N' 'l'),
   ("no", .category 'N' 'o'), ("othernumber", .category 'N' 'o'),
   ("pc", .category 'P' 'c'), ("connectorpunctuation", .category 'P' 'c'),
   ("pd", .category 'P' 'd'), ("dashpunctuation", .category 'P' 'd'),
   ("ps", .category 'P' 's'), ("openpunctuation", .category 'P' 's'),
   ("pe", .category 'P' 'e'), ("closepunctuation", .category 'P' 'e'),
   ("pi", .category 'P' 'i'), ("initialpunctuation", .category 'P' 'i'),
   ("pf", .category 'P' 'f'), ("finalpunctuation", .category 'P' 'f'),
   ("po", .category 'P' 'o'), ("otherpunctuation", .category 'P' 'o'),
   ("sm", .category 'S' 'm'), ("mathsymbol", .category 'S' 'm'),
   ("sc", .category 'S' 'c'), ("currencysymbol", .category 'S' 'c'),
   ("sk", .category 'S' 'k'), ("modifiersymbol", .category 'S' 'k'),
   ("so", .category 'S' 'o'), ("othersymbol", .category 'S' 'o'),
   ("zs", .category 'Z' 's'), ("spaceseparator", .category 'Z' 's'),
   ("zl", .category 'Z' 'l'), ("lineseparator", .category 'Z' 'l'),
   ("zp", .category 'Z' 'p'), ("paragraphseparator", .category 'Z' 'p'),
   ("cc", .category 'C' 'c'), ("control", .category 'C' 'c'), ("cntrl", .category 'C' 'c'),
   ("cf", .category 'C' 'f'), ("format", .category 'C' 'f'),
   ("cs", .category 'C' 's'), ("surrogate", .category 'C' 's'),
   ("co", .category 'C' 'o'), ("privateuse", .category 'C' 'o'),
   ("cn", .category 'C' 'n'), ("unassigned", .category 'C' 'n'), ("assigned", .assigned)]

/-- The names of the binary properties. -/
def binaryNames : List (String × CharSet) :=
  [("alphabetic", .property .alphabetic), ("alpha", .property .alphabetic),
   ("uppercase", .property .uppercase), ("upper", .property .uppercase),
   ("lowercase", .property .lowercase), ("lower", .property .lowercase),
   ("whitespace", .property .whiteSpace), ("wspace", .property .whiteSpace),
   ("space", .property .whiteSpace), ("emoji", .property .emoji),
   ("ideographic", .property .ideographic), ("ideo", .property .ideographic),
   ("dash", .property .dash), ("quotationmark", .property .quotationMark),
   ("qmark", .property .quotationMark), ("math", .property .math),
   ("asciihexdigit", .ofRanges [('0', '9'), ('A', 'F'), ('a', 'f')]),
   ("ahex", .ofRanges [('0', '9'), ('A', 'F'), ('a', 'f')])]

/-- The set of a general category. -/
def categorySet? (name : String) : Option CharSet :=
  match name with
  | "any" => some .any
  | "ascii" => some (.range '\x00' '\x7f')
  | _ => (categoryNames.lookup name).map .property

/-- The set of a script. -/
def scriptSet? (name : String) : Option CharSet :=
  (Unicode.scriptNamed? name).map fun (a, b) => .property (.script a b)

/-- The set of a property known by one name. -/
def namedSet? (name : String) : Option CharSet :=
  (binaryNames.lookup name).or ((categorySet? name).or (scriptSet? name))

/-- The set of a property and one of its values. -/
def valuedSet? (name value : String) : Option CharSet :=
  if name = "gc" ∨ name = "generalcategory" then categorySet? value
  else if name = "sc" ∨ name = "script" ∨ name = "scx" ∨ name = "scriptextensions" then
    scriptSet? value
  else none

/-- Splits a text at the first occurrence of a mark. -/
def splitAtMark (mark : List Char) : List Char → Option (List Char × List Char)
  | [] => none
  | c :: rest =>
    if mark.isPrefixOf (c :: rest) then some ([], (c :: rest).drop mark.length)
    else (splitAtMark mark rest).map fun (a, b) => (c :: a, b)

/-- The set between the braces of a property escape. -/
def bracedSet? (text : List Char) : Option CharSet :=
  match splitAtMark ['!', '='] text with
  | some (name, value) => (valuedSet? (normalName name) (normalName value)).map .compl
  | none =>
    match (splitAtMark [':'] text).or (splitAtMark ['='] text) with
    | some (name, value) => valuedSet? (normalName name) (normalName value)
    | none => namedSet? (normalName text)

/-- Reads up to a closing brace. -/
def readBraced (f : Flags) : Nat → List Char → List Char → Option (List Char × List Char)
  | 0, _, _ => none
  | _, _, [] => none
  | left + 1, acc, c :: rest =>
    if c = '\x7d' then some (acc, rest) else readBraced f left (acc ++ [c]) (skip f rest)

/-- A set as it counts under the flags: closed under case where case is ignored. -/
def foldUnder (f : Flags) (s : CharSet) : CharSet :=
  if f.ignoreCase then (if f.ascii then .asciiFolded s else .folded s) else s

/-- Reads a property escape after its `p` or `P`. -/
def readProperty (f : Flags) (negated : Bool) (cs : List Char) :
    Except Malformed (CharSet × List Char) :=
  let found : Except Malformed (CharSet × List Char) :=
    match skip f cs with
    | [] => .error .escape
    | '\x7b' :: rest =>
      match readBraced f (rest.length + 1) [] (skip f rest) with
      | none => .error .escape
      | some (text, rest) =>
        match bracedSet? text with
        | some s => .ok (s, rest)
        | none => .error .unknownProperty
    | '\\' :: _ => .error .escape
    | c :: rest =>
      match namedSet? (normalName [c]) with
      | some s => .ok (s, skip f rest)
      | none => .error .unknownProperty
  match found with
  | .error e => .error e
  | .ok (s, rest) =>
    if f.ascii then .error .notText
    else .ok (if negated then .compl (foldUnder f s) else foldUnder f s, rest)

/-! ## Escaped characters -/

/-- Reads the name of a special word boundary, after `\b`, where its brace starts one. -/
def readBoundaryName (f : Flags) (cs : List Char) :
    Except Malformed (Option (Anchor × List Char)) :=
  match cs with
  | '\x7b' :: rest =>
    let isNameChar (c : Char) : Bool := c.isAlpha || c == '-'
    match skip f rest with
    | [] => .error .escape
    | c :: rest =>
      if !isNameChar c then .ok none
      else
        let name := (c :: rest).takeWhile isNameChar
        match (c :: rest).dropWhile isNameChar with
        | '\x7d' :: rest =>
          match String.ofList name with
          | "start" => .ok (some (.wordStart f.ascii, rest))
          | "end" => .ok (some (.wordEnd f.ascii, rest))
          | "start-half" => .ok (some (.noWordBefore f.ascii, rest))
          | "end-half" => .ok (some (.noWordAfter f.ascii, rest))
          | _ => .error .escape
        | _ => .error .escape
  | _ => .ok none

/-- Reads an escape after its backslash. -/
def readEscape (f : Flags) (cs : List Char) : Except Malformed (Atom × List Char) :=
  match cs with
  | [] => .error .escape
  | c :: rest =>
    let literal (v : Char) : Except Malformed (Atom × List Char) := .ok (.literal v, rest)
    let anchor (a : Anchor) : Except Malformed (Atom × List Char) := .ok (.anchor a, rest)
    if c.isDigit then .error .unsupported
    else
      match c with
      | 'x' => (readHex f 2 rest).map fun (v, r) => (.literal v, r)
      | 'u' => (readHex f 4 rest).map fun (v, r) => (.literal v, r)
      | 'U' => (readHex f 8 rest).map fun (v, r) => (.literal v, r)
      | 'p' => (readProperty f false rest).map fun (s, r) => (.set s, r)
      | 'P' => (readProperty f true rest).map fun (s, r) => (.set s, r)
      | 'a' => literal '\x07'
      | 'f' => literal '\x0c'
      | 't' => literal '\t'
      | 'n' => literal '\n'
      | 'r' => literal '\r'
      | 'v' => literal '\x0b'
      | 'A' => anchor .textStart
      | 'z' => anchor .textEnd
      | 'B' => anchor (.notWordBoundary f.ascii)
      | '<' => anchor (.wordStart f.ascii)
      | '>' => anchor (.wordEnd f.ascii)
      | 'b' =>
        match readBoundaryName f rest with
        | .error e => .error e
        | .ok (some (a, r)) => .ok (.anchor a, r)
        | .ok none => anchor (.wordBoundary f.ascii)
      | _ =>
        match perlSet? f c with
        | .error e => .error e
        | .ok (some s) => .ok (.set s, rest)
        | .ok none =>
          if isMeta c || (c.toNat < 128 && !c.isAlphanum) then literal c else .error .escape

/-! ## Bracketed classes -/

/-- The classes that `[:name:]` names inside brackets. -/
def asciiClass? (name : String) : Option CharSet :=
  match name with
  | "alnum" => some (.ofRanges [('0', '9'), ('A', 'Z'), ('a', 'z')])
  | "alpha" => some (.ofRanges [('A', 'Z'), ('a', 'z')])
  | "ascii" => some (.range '\x00' '\x7f')
  | "blank" => some (.ofRanges [('\t', '\t'), (' ', ' ')])
  | "cntrl" => some (.ofRanges [('\x00', '\x1f'), ('\x7f', '\x7f')])
  | "digit" => some asciiDigit
  | "graph" => some (.range '!' '~')
  | "lower" => some (.range 'a' 'z')
  | "print" => some (.range ' ' '~')
  | "punct" => some (.ofRanges [('!', '/'), (':', '@'), ('[', '`'), ('\x7b', '~')])
  | "space" => some asciiSpace
  | "upper" => some (.range 'A' 'Z')
  | "word" => some asciiWord
  | "xdigit" => some (.ofRanges [('0', '9'), ('A', 'F'), ('a', 'f')])
  | _ => none

/-- Reads a named class after the `[` of `[:name:]`; nothing when the text is none. -/
def readAsciiClass (cs : List Char) : Option (CharSet × List Char) :=
  match cs with
  | ':' :: rest =>
    let (negated, rest) := match rest with
      | '^' :: r => (true, r)
      | r => (false, r)
    let name := rest.takeWhile (· != ':')
    match rest.dropWhile (· != ':') with
    | ':' :: ']' :: rest =>
      (asciiClass? (String.ofList name)).map fun s => (if negated then .compl s else s, rest)
    | _ => none
  | _ => none

/-- How two operands of a class combine. -/
inductive ClassOp where
  | inter
  | diff
  | symmDiff
deriving DecidableEq, Repr

/-- The combination of two operands. -/
def ClassOp.apply : ClassOp → CharSet → CharSet → CharSet
  | inter, s, t => .inter s t
  | diff, s, t => s.diff t
  | symmDiff, s, t => s.symmDiff t

/-- An open bracket: whether it is negated, the left operand of a pending operation, and the items
read since. -/
structure OpenClass where
  negated : Bool
  pending : Option (ClassOp × CharSet)
  items : CharSet

namespace OpenClass

/-- Adds an item. -/
def add (o : OpenClass) (s : CharSet) : OpenClass := { o with items := .union o.items s }

/-- The set read so far, with a pending operation carried out. -/
def value (f : Flags) (o : OpenClass) : CharSet :=
  match o.pending with
  | none => o.items
  | some (op, left) => op.apply (foldUnder f left) (foldUnder f o.items)

/-- The set of the class once it is closed. A complement narrowed to ASCII would match a part of a
character. -/
def close (f : Flags) (o : OpenClass) : Except Malformed CharSet :=
  let s := foldUnder f (o.value f)
  if o.negated then (if f.ascii then .error .notText else .ok (.compl s)) else .ok s

end OpenClass

/-- Reads the literal minus signs at the start of a class. -/
def readMinuses (f : Flags) : Nat → OpenClass → List Char → OpenClass × List Char
  | 0, o, cs => (o, cs)
  | left + 1, o, cs =>
    match cs with
    | '-' :: rest => readMinuses f left (o.add (.single '-')) (skip f rest)
    | _ => (o, cs)

/-- Reads the start of a class after its bracket. -/
def openClass (f : Flags) (cs : List Char) : Except Malformed (OpenClass × List Char) :=
  let cs := skip f cs
  let (negated, cs) := match cs with
    | '^' :: rest => (true, skip f rest)
    | _ => (false, cs)
  let (o, after) := readMinuses f cs.length ⟨negated, none, .empty⟩ cs
  match after with
  | [] => .error .unclosedClass
  | ']' :: rest =>
    if o.items = .empty then
      match skip f rest with
      | [] => .error .unclosedClass
      | rest => .ok (o.add (.single ']'), rest)
    else .ok (o, after)
  | _ => .ok (o, after)

/-- Reads one end of a range, or an item that is no range. -/
def readClassAtom (f : Flags) (cs : List Char) : Except Malformed (Atom × List Char) :=
  match cs with
  | [] => .error .unclosedClass
  | '\\' :: rest => readEscape f rest
  | c :: rest => .ok (.literal c, rest)

/-- The set of an item that is no range. -/
def Atom.toClassItem (f : Flags) : Atom → Except Malformed CharSet
  | literal c => if f.ascii && c.toNat ≥ 128 then .error .notText else .ok (.single c)
  | set s => .ok s
  | anchor _ => .error .escape

/-- Reads an item or a range of a class. -/
def readClassItem (f : Flags) (cs : List Char) : Except Malformed (CharSet × List Char) := do
  let (first, rest) ← readClassAtom f cs
  let rest := skip f rest
  match rest with
  | [] => .error .unclosedClass
  | '-' :: more =>
    let next := (skip f more).head?
    if next = some ']' ∨ next = some '-' then
      let s ← first.toClassItem f
      return (s, rest)
    else
      match skip f more with
      | [] => .error .unclosedClass
      | more =>
        let (second, rest) ← readClassAtom f more
        match first, second with
        | .literal lo, .literal hi =>
          if f.ascii && (lo.toNat ≥ 128 || hi.toNat ≥ 128) then .error .notText
          else if lo ≤ hi then return (.range lo hi, rest)
          else .error .classRange
        | _, _ => .error .classRange
  | _ =>
    let s ← first.toClassItem f
    return (s, rest)

/-- Reads a class whose innermost open bracket is `o`, inside the brackets `outer`. -/
def readClass (f : Flags) :
    Nat → OpenClass → List OpenClass → List Char → Except Malformed (CharSet × List Char)
  | 0, _, _, _ => .error .unclosedClass
  | left + 1, o, outer, cs =>
    let operator (op : ClassOp) (rest : List Char) : Except Malformed (CharSet × List Char) :=
      readClass f left { o with pending := some (op, o.value f), items := .empty } outer rest
    match skip f cs with
    | [] => .error .unclosedClass
    | '[' :: rest =>
      match readAsciiClass rest with
      | some (s, rest) => readClass f left (o.add s) outer rest
      | none => do
        let (inner, rest) ← openClass f rest
        readClass f left inner (o :: outer) rest
    | ']' :: rest => do
      let s ← o.close f
      match outer with
      | [] => return (s, rest)
      | parent :: outer => readClass f left (parent.add s) outer rest
    | '&' :: '&' :: rest => operator .inter rest
    | '-' :: '-' :: rest => operator .diff rest
    | '~' :: '~' :: rest => operator .symmDiff rest
    | cs => do
      let (s, rest) ← readClassItem f cs
      readClass f left (o.add s) outer rest

/-- Reads a bracketed class after its bracket. -/
def readBracketed (f : Flags) (cs : List Char) : Except Malformed (CharSet × List Char) := do
  let (o, rest) ← openClass f cs
  readClass f (2 * cs.length + 2) o [] rest

/-! ## Groups and repetition -/

/-- An item of a concatenation. A setting of flags is an item that cannot be repeated. -/
structure Item where
  expr : Expr
  repeatable : Bool := true

/-- A level of the pattern: the flags at its start, its finished alternatives and the items of the
current one, both last first. -/
structure Level where
  flags : Flags
  alternatives : List Expr
  items : List Item

namespace Level

/-- The expression of the current alternative. -/
def current (l : Level) : Expr := Expr.seqOf (l.items.reverse.map (·.expr))

/-- The expression of the whole level. -/
def expr (l : Level) : Expr := Expr.altOf (l.alternatives.reverse ++ [l.current])

/-- Adds an item. -/
def add (l : Level) (x : Expr) : Level := { l with items := ⟨x, true⟩ :: l.items }

/-- Repeats the last item. -/
def repeated (l : Level) (min : Nat) (max : Option Nat) : Except Malformed Level :=
  match l.items with
  | ⟨x, true⟩ :: rest => .ok { l with items := ⟨.rep x min max, true⟩ :: rest }
  | _ => .error .nothingToRepeat

end Level

/-- Drops the mark that makes a repetition prefer fewer turns; it does not change what matches. -/
def dropLazy : List Char → List Char
  | '?' :: rest => rest
  | cs => cs

/-- Reads a counted repetition after its brace. -/
def readCounts (f : Flags) (cs : List Char) :
    Except Malformed ((Nat × Option Nat) × List Char) := do
  match skip f cs with
  | [] => .error .repetition
  | cs =>
    let (first, rest) ← readCount f cs
    let finish (range : Nat × Option Nat) (rest : List Char) :
        Except Malformed ((Nat × Option Nat) × List Char) :=
      match rest with
      | '\x7d' :: rest =>
        if range.2.all (range.1 ≤ ·) then .ok (range, dropLazy (skip f rest))
        else .error .repetition
      | _ => .error .repetition
    match rest, first with
    | ',' :: rest, some min =>
      match skip f rest with
      | [] => .error .repetition
      | '\x7d' :: rest => finish (min, none) ('\x7d' :: rest)
      | rest =>
        let (second, rest) ← readCount f rest
        match second with
        | some max => finish (min, some max) rest
        | none => .error .repetition
    | rest, some n => finish (n, some n) rest
    | _, none => .error .repetition

/-- Reads the name of a group up to its closing angle bracket. -/
def readGroupName (names : List String) (cs : List Char) :
    Except Malformed (String × List Char) :=
  let name := cs.takeWhile (· != '>')
  let isNameChar (c : Char) : Bool :=
    c == '_' || c == '.' || c == '[' || c == ']' || Unicode.isAlphabetic c || Unicode.isNumeric c
  match cs.dropWhile (· != '>'), name with
  | '>' :: rest, c :: _ =>
    let text := String.ofList name
    if !(c == '_' || Unicode.isAlphabetic c) || !name.all isNameChar || names.contains text then
      .error .groupName
    else .ok (text, rest)
  | _, _ => .error .groupName

/-- What the text after an opening parenthesis starts. -/
inductive Opening where
  | group (flags : Flags) (names : List String) (rest : List Char)
  | setting (flags : Flags) (rest : List Char)

/-- Reads the start of a group after its parenthesis. -/
def readOpening (f : Flags) (names : List String) (cs : List Char) : Except Malformed Opening :=
  let cs := skip f cs
  let named (rest : List Char) : Except Malformed Opening :=
    (readGroupName names rest).map fun (name, rest) => .group f (name :: names) rest
  match cs with
  | '?' :: '=' :: _ => .error .unsupported
  | '?' :: '!' :: _ => .error .unsupported
  | '?' :: '<' :: '=' :: _ => .error .unsupported
  | '?' :: '<' :: '!' :: _ => .error .unsupported
  | '?' :: 'P' :: '<' :: rest => named rest
  | '?' :: '<' :: rest => named rest
  | '?' :: rest =>
    (readFlags rest f [] true).map fun (flags, isGroup, rest) =>
      if isGroup then .group flags names rest else .setting flags rest
  | _ => .ok (.group f names cs)

/-! ## The whole pattern -/

/-- The anchor of a caret. -/
def caret (f : Flags) : Anchor :=
  if f.multiLine then (if f.anyLineEnd then .anyLineStart else .lineStart) else .textStart

/-- The anchor of a dollar sign. -/
def dollar (f : Flags) : Anchor :=
  if f.multiLine then (if f.anyLineEnd then .anyLineEnd else .lineEnd) else .textEnd

/-- The set of a dot. -/
def dot (f : Flags) : CharSet :=
  if f.dotMatchesFeed then .any
  else if f.anyLineEnd then .compl (.union (.single '\r') (.single '\n'))
  else .compl (.single '\n')

/-- The expression of an escape or a plain character. -/
def Atom.toExpr (f : Flags) : Atom → Expr
  | literal c => .set (foldUnder f (.single c))
  | set s => .set s
  | anchor a => .anchor a

/-- Reads the rest of a pattern. `level` is the innermost open level, `outer` holds those around it
and `flags` the flags in force. -/
def readPattern : Nat → Flags → Level → List Level → List String → List Char → Except Malformed Expr
  | 0, _, _, _, _, _ => .error .tooLarge
  | left + 1, f, level, outer, names, cs =>
    match skip f cs with
    | [] => if outer.isEmpty then .ok level.expr else .error .unclosedGroup
    | '(' :: rest => do
      match ← readOpening f names rest with
      | .group flags names rest => readPattern left flags ⟨f, [], []⟩ (level :: outer) names rest
      | .setting flags rest =>
        readPattern left flags { level with items := ⟨.empty, false⟩ :: level.items } outer names rest
    | ')' :: rest =>
      match outer with
      | [] => .error .unopenedGroup
      | parent :: outer => readPattern left level.flags (parent.add level.expr) outer names rest
    | '|' :: rest =>
      readPattern left f
        { level with alternatives := level.current :: level.alternatives, items := [] }
        outer names rest
    | '[' :: rest => do
      let (s, rest) ← readBracketed f rest
      readPattern left f (level.add (.set s)) outer names rest
    | '?' :: rest => do
      readPattern left f (← level.repeated 0 (some 1)) outer names (dropLazy rest)
    | '*' :: rest => do
      readPattern left f (← level.repeated 0 none) outer names (dropLazy rest)
    | '+' :: rest => do
      readPattern left f (← level.repeated 1 none) outer names (dropLazy rest)
    | '\x7b' :: rest => do
      if level.items.isEmpty then .error .nothingToRepeat
      else
        let ((min, max), rest) ← readCounts f rest
        readPattern left f (← level.repeated min max) outer names rest
    | '.' :: rest =>
      if f.ascii then .error .notText
      else readPattern left f (level.add (.set (dot f))) outer names rest
    | '^' :: rest => readPattern left f (level.add (.anchor (caret f))) outer names rest
    | '$' :: rest => readPattern left f (level.add (.anchor (dollar f))) outer names rest
    | '\\' :: rest => do
      let (atom, rest) ← readEscape f rest
      readPattern left f (level.add (atom.toExpr f)) outer names rest
    | c :: rest => readPattern left f (level.add ((Atom.literal c).toExpr f)) outer names rest

/-! ## Size -/

/-- An estimate of the states that a set of characters has in a compiled pattern. The figures are round
ones: how many states a property really has depends on how its ranges share their bytes. -/
def CharSet.weight : CharSet → Nat
  | empty => 1
  | any => 12
  | range _ _ => 1
  | property .wordCharacter => 1500
  | property .alphabetic => 1500
  | property (.majorCategory 'L') => 1300
  | property _ => 150
  | union s t => s.weight + t.weight
  | inter s t => s.weight + t.weight
  | compl s => 12 + s.weight
  | folded s => 2 * s.weight
  | asciiFolded s => 2 * s.weight

/-- An estimate of the states of a compiled pattern, in which repetitions are written out. -/
def Expr.weight : Expr → Nat
  | empty => 1
  | set s => s.weight
  | anchor _ => 1
  | seq x y => x.weight + y.weight
  | alt x y => x.weight + y.weight + 1
  | rep x min none => (x.weight + 1) * (min + 1)
  | rep x min (some max) => (x.weight + 1) * (Nat.max min max)

/-- The greatest estimate with which a pattern is read: ten megabytes at 32 bytes for a state. Near the
limit the estimate need not decide as the size itself would. -/
def weightLimit : Nat := 327680

/-- Reads a pattern. -/
def parse (text : String) : Except Malformed Expr := do
  let cs := text.toList
  let expr ← readPattern (cs.length + 1) {} ⟨{}, [], []⟩ [] [] cs
  if expr.weight ≤ weightLimit then return expr else .error .tooLarge

end LintGate.Pattern
