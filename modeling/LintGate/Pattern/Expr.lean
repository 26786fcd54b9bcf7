/-
Patterns of text.

A pattern is an expression over sets of characters and anchors. The module holds
the expressions, the sets and properties that a set of characters is made of, and
the question whether a character belongs to one.
-/
import LintGate.Unicode.Property
import LintGate.Unicode.Script
import LintGate.Unicode.CaseFold

set_option autoImplicit false

namespace LintGate.Pattern

/-! ## Sets of characters -/

/-- A property that a character has or lacks. -/
inductive Property where
  | wordCharacter
  | decimalDigit
  | whiteSpace
  | alphabetic
  | uppercase
  | lowercase
  | emoji
  | ideographic
  | dash
  | quotationMark
  | math
  | casedLetter
  | assigned
  | majorCategory (letter : Char)
  | category (letter minor : Char)
  | script (first second : Char)
deriving DecidableEq, Repr

namespace Property

/-- Whether a character has the property. -/
def holds : Property → Char → Bool
  | wordCharacter, c => Unicode.isWordCharacter c
  | decimalDigit, c => Unicode.isDecimalDigit c
  | whiteSpace, c => Unicode.isWhiteSpace c
  | alphabetic, c => Unicode.isAlphabetic c
  | uppercase, c => Unicode.isUppercase c
  | lowercase, c => Unicode.isLowercase c
  | emoji, c => Unicode.inRanges Unicode.emojiRanges c.toNat
  | ideographic, c => Unicode.inRanges Unicode.ideographicRanges c.toNat
  | dash, c => Unicode.inRanges Unicode.dashRanges c.toNat
  | quotationMark, c => Unicode.inRanges Unicode.quotationMarkRanges c.toNat
  | math, c => Unicode.inRanges Unicode.mathRanges c.toNat
  | casedLetter, c =>
    let k := Unicode.category c
    k == ('L', 'u') || k == ('L', 'l') || k == ('L', 't')
  | assigned, c => Unicode.category c != ('C', 'n')
  | majorCategory letter, c => (Unicode.category c).1 == letter
  | category letter minor, c => Unicode.category c == (letter, minor)
  | script first second, c => Unicode.script c == some (first, second)

end Property

/-- A set of characters. -/
inductive CharSet where
  | empty
  | any
  | range (lo hi : Char)
  | property (p : Property)
  | union (s t : CharSet)
  | inter (s t : CharSet)
  | compl (s : CharSet)
  /-- Closed under simple case folding. -/
  | folded (s : CharSet)
  /-- Closed under the case of the ASCII letters. -/
  | asciiFolded (s : CharSet)
deriving DecidableEq, Repr

namespace CharSet

/-- The set of one character. -/
def single (c : Char) : CharSet := range c c

/-- The characters of `s` that are not in `t`. -/
def diff (s t : CharSet) : CharSet := inter s (compl t)

/-- The characters in exactly one of two sets. -/
def symmDiff (s t : CharSet) : CharSet := union (diff s t) (diff t s)

/-- The union of ranges. -/
def ofRanges : List (Char × Char) → CharSet
  | [] => empty
  | (lo, hi) :: rest => union (range lo hi) (ofRanges rest)

/-- Membership. -/
def mem : CharSet → Char → Bool
  | empty, _ => false
  | any, _ => true
  | range lo hi, c => lo ≤ c && c ≤ hi
  | property p, c => p.holds c
  | union s t, c => s.mem c || t.mem c
  | inter s t, c => s.mem c && t.mem c
  | compl s, c => !s.mem c
  | folded s, c => s.mem c || (Unicode.foldOrbit c.toNat).any fun n => s.mem (Char.ofNat n)
  | asciiFolded s, c => s.mem c || s.mem c.toLower || s.mem c.toUpper

end CharSet

/-! ## Anchors -/

/-- A condition on the place between two characters. `ascii` narrows words to ASCII. -/
inductive Anchor where
  | textStart
  | textEnd
  | lineStart
  | lineEnd
  /-- The start of a line that a carriage return, a line feed or both may end. -/
  | anyLineStart
  | anyLineEnd
  | wordBoundary (ascii : Bool)
  | notWordBoundary (ascii : Bool)
  | wordStart (ascii : Bool)
  | wordEnd (ascii : Bool)
  | noWordBefore (ascii : Bool)
  | noWordAfter (ascii : Bool)
deriving DecidableEq, Repr

/-- Whether a neighbouring character, if there is one, belongs to a word. -/
def isWordAt (ascii : Bool) : Option Char → Bool
  | some c => if ascii then c.isAlphanum || c == '_' else Unicode.isWordCharacter c
  | none => false

/-- Whether the anchor holds between the characters `before` and `after`. -/
def Anchor.holds (before after : Option Char) : Anchor → Bool
  | textStart => before.isNone
  | textEnd => after.isNone
  | lineStart => before.isNone || before == some '\n'
  | lineEnd => after.isNone || after == some '\n'
  | anyLineStart =>
    before.isNone || before == some '\n' || (before == some '\r' && after != some '\n')
  | anyLineEnd =>
    after.isNone || after == some '\r' || (after == some '\n' && before != some '\r')
  | wordBoundary ascii => isWordAt ascii before != isWordAt ascii after
  | notWordBoundary ascii => isWordAt ascii before == isWordAt ascii after
  | wordStart ascii => !isWordAt ascii before && isWordAt ascii after
  | wordEnd ascii => isWordAt ascii before && !isWordAt ascii after
  | noWordBefore ascii => !isWordAt ascii before
  | noWordAfter ascii => !isWordAt ascii after

/-! ## Expressions -/

/-- A pattern. -/
inductive Expr where
  | empty
  | set (s : CharSet)
  | anchor (a : Anchor)
  | seq (x y : Expr)
  | alt (x y : Expr)
  /-- At least `min` times, at most `max` times if that is given. -/
  | rep (x : Expr) (min : Nat) (max : Option Nat)
deriving DecidableEq, Repr

namespace Expr

/-- The expressions one after the other. -/
def seqOf : List Expr → Expr
  | [] => empty
  | [x] => x
  | x :: rest => seq x (seqOf rest)

/-- One of the expressions. -/
def altOf : List Expr → Expr
  | [] => empty
  | [x] => x
  | x :: rest => alt x (altOf rest)

end Expr

end LintGate.Pattern
