import JobNode.Text.CharacterClass

/-!
# Quoted text

The form in which messages show a piece of text or a single character: between quotation marks,
with the marks, the backslash and everything that would not print written as an escape.
-/

namespace JobNode.Text

/-- Lower-case hexadecimal digits of a number, without leading zeros. -/
def hexNumeral (n : Nat) : List Char :=
  Nat.toDigits 16 n

/-- The escape that names a character by its code point. -/
def numberEscape (c : Char) : List Char :=
  ['\\', 'u', '{'] ++ hexNumeral c.toNat ++ ['}']

/-- One character inside quotation marks `mark`. -/
def quoteChar (mark c : Char) : List Char :=
  if c = '\x00' then ['\\', '0']
  else if c = '\t' then ['\\', 't']
  else if c = '\n' then ['\\', 'n']
  else if c = '\r' then ['\\', 'r']
  else if c = '\\' then ['\\', '\\']
  else if c = mark then ['\\', c]
  else if isExtending c || isUnprintable c then numberEscape c
  else [c]

/-- A text between double quotation marks. -/
def quoted (s : String) : String :=
  String.ofList ('"' :: s.toList.flatMap (quoteChar '"') ++ ['"'])

/-- A single character between single quotation marks. -/
def quotedChar (c : Char) : String :=
  String.ofList ('\x27' :: quoteChar '\x27' c ++ ['\x27'])

end JobNode.Text
