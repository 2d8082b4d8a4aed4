/-!
# ASCII Classes

The character classes that document formats define over ASCII alone. A
character outside ASCII belongs to none of them.

## Main definitions

* `isLineBlank`: A space or a tab.
* `isInlineBlank`: Blank inside a line: tab, vertical tab, form feed, space.
* `isAsciiBlank`: Those and the two line-ending characters.
* `isWordChar`: The characters of plain words: letters, digits and two marks.
* `isAsciiPunctuation`: The printable characters that are neither letters nor
  digits.
* `hexDigit?`, `sign`, `decimalValue`, `hexValue`: The parts of numbers.
-/

namespace WikiSync.Text

/-- A space or a tab. -/
def isLineBlank (c : Char) : Bool :=
  c == ' ' || c == '\t'

/-- Blank inside a line: tab, vertical tab, form feed or space. -/
def isInlineBlank (c : Char) : Bool :=
  c == ' ' || c == '\t' || c == '\x0b' || c == '\x0c'

/-- Blank, line endings included. -/
def isAsciiBlank (c : Char) : Bool :=
  isInlineBlank c || c == '\n' || c == '\r'

/-- A printable ASCII character that is neither a letter nor a digit nor a
space. -/
def isAsciiPunctuation (c : Char) : Bool :=
  '!' ≤ c && c ≤ '~' && !c.isAlphanum

/-- A character of a plain word: a letter, a digit, an underscore or a hyphen. -/
def isWordChar (c : Char) : Bool :=
  c.isAlphanum || c == '_' || c == '-'

/-- The value of a hexadecimal digit. -/
def hexDigit? (c : Char) : Option Nat :=
  if c.isDigit then some (c.toNat - '0'.toNat)
  else if 'a' ≤ c && c ≤ 'f' then some (c.toNat - 'a'.toNat + 10)
  else if 'A' ≤ c && c ≤ 'F' then some (c.toNat - 'A'.toNat + 10)
  else none

/-- The sign of a number, true for a minus, and what follows. -/
def sign (cs : List Char) : Bool × List Char :=
  match cs with
  | '-' :: rest => (true, rest)
  | '+' :: rest => (false, rest)
  | _ => (false, cs)

/-- The number that decimal digits spell. -/
def decimalValue (digits : List Char) : Nat :=
  digits.foldl (fun n c => 10 * n + (c.toNat - '0'.toNat)) 0

/-- The number that hexadecimal digits spell; other characters count as 0. -/
def hexValue (digits : List Char) : Nat :=
  digits.foldl (fun n c => 16 * n + (hexDigit? c).getD 0) 0

end WikiSync.Text
