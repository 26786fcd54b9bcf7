/-
Texts in quotes, as error messages show them.

Quotes, backslashes and line ends are escaped; so is every character that cannot be
shown by itself, by its number.
-/
import LintGate.Unicode.Property

set_option autoImplicit false

namespace LintGate.Text

/-- The escape of a character by its number. -/
def numberEscape (c : Char) : List Char :=
  "\\u\x7b".toList ++ Nat.toDigits 16 c.toNat ++ ['\x7d']

/-- A character inside quotes. -/
def quotedChar (c : Char) : List Char :=
  if c = '"' ∨ c = '\\' then ['\\', c]
  else if c = '\n' then ['\\', 'n']
  else if c = '\r' then ['\\', 'r']
  else if c = '\t' then ['\\', 't']
  else if c = '\x00' then ['\\', '0']
  else if c.toNat < 0x7f && 0x20 ≤ c.toNat then [c]
  else if Unicode.isPrintable c && !Unicode.extendsGrapheme c then [c]
  else numberEscape c

/-- A text in quotes. -/
def quoted (s : String) : String := String.ofList (['"'] ++ s.toList.flatMap quotedChar ++ ['"'])

end LintGate.Text
