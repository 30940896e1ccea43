import EcmaEdition.Text.Printable

/-!
# Quoted text

A quoted text stands on one line between two equal marks and shows printable characters alone. The
mark is the apostrophe, or the double quote where the text holds an apostrophe and no double quote.
Inside, a backslash precedes the backslash and the mark; line feed, carriage return and tab have
letters; any other character that is not printable is written by its code point in two, four or
eight hexadecimal digits.
-/

set_option autoImplicit false

namespace EcmaEdition.Text

/-- The lower-case digit of a value below sixteen. -/
def hexDigit (value : Nat) : Char :=
  if value < 10 then Char.ofNat (0x30 + value) else Char.ofNat (0x57 + value)

/-- The lowest `width` hexadecimal digits of a number, the highest of them first. -/
def hexDigits : (width : Nat) → Nat → List Char
  | 0, _ => []
  | width + 1, value => hexDigits width (value / 16) ++ [hexDigit (value % 16)]

/-- The mark around a quoted text. -/
def quoteMark (text : List Char) : Char :=
  if text.contains '\'' && !text.contains '"' then '"' else '\''

/-- A code point as an escape: `\x`, `\u` or `\U` with two, four or eight digits. -/
def escapeCode (code : Nat) : List Char :=
  if code < 0x100 then '\\' :: 'x' :: hexDigits 2 code
  else if code < 0x10000 then '\\' :: 'u' :: hexDigits 4 code
  else '\\' :: 'U' :: hexDigits 8 code

/-- A character as it stands between quotes of the given mark. -/
def escapeChar (mark c : Char) : List Char :=
  if c = mark || c = '\\' then ['\\', c]
  else if c = '\n' then ['\\', 'n']
  else if c = '\r' then ['\\', 'r']
  else if c = '\t' then ['\\', 't']
  else if isPrintable c then [c]
  else escapeCode c.toNat

/-- The quoted form of a text. -/
def quoted (text : List Char) : List Char :=
  quoteMark text :: text.flatMap (escapeChar (quoteMark text)) ++ [quoteMark text]

/-- The quoted form of a string. -/
def quote (text : String) : String :=
  String.ofList (quoted text.toList)

end EcmaEdition.Text
