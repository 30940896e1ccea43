import EcmaEdition.Text.Quoted

/-!
# JSON

A JSON document is written over several lines, each level two spaces deeper, and in ASCII alone: a
character beyond ASCII stands as one `\u` escape for each of its UTF-16 units.
-/

set_option autoImplicit false

namespace EcmaEdition

/-- A JSON value, as far as reports need one. -/
inductive Json where
  | null
  | string (text : String)
  | array (items : List Json)
  | object (members : List (String × Json))

namespace Json

open EcmaEdition.Text

/-- An escape of one UTF-16 unit. -/
def unitEscape (unit : Nat) : List Char :=
  '\\' :: 'u' :: hexDigits 4 unit

/-- A character as it stands inside a string. -/
def escapeChar (c : Char) : List Char :=
  if c = '"' then ['\\', '"']
  else if c = '\\' then ['\\', '\\']
  else if c = '\n' then ['\\', 'n']
  else if c = '\r' then ['\\', 'r']
  else if c = '\t' then ['\\', 't']
  else if c = '\x0c' then ['\\', 'f']
  else if c = '\x08' then ['\\', 'b']
  else
    let code := c.toNat
    if 0x20 ≤ code ∧ code < 0x7F then [c]
    else if code < 0x10000 then unitEscape code
    else
      unitEscape (0xD800 + (code - 0x10000) / 0x400) ++
        unitEscape (0xDC00 + (code - 0x10000) % 0x400)

/-- A string with its quotes. -/
def stringChars (text : String) : List Char :=
  '"' :: text.toList.flatMap escapeChar ++ ['"']

/-- A line break followed by the indentation of a level. -/
def newLine (level : Nat) : List Char :=
  '\n' :: List.replicate (2 * level) ' '

mutual

/-- A value that begins on a line of the given level. -/
def chars (level : Nat) : Json → List Char
  | .null => ['n', 'u', 'l', 'l']
  | .string text => stringChars text
  | .array [] => ['[', ']']
  | .array (item :: rest) =>
    '[' :: newLine (level + 1) ++ chars (level + 1) item ++ itemChars (level + 1) rest ++
      newLine level ++ [']']
  | .object [] => ['\x7b', '\x7d']
  | .object ((key, value) :: rest) =>
    '\x7b' :: newLine (level + 1) ++ stringChars key ++ [':', ' '] ++ chars (level + 1) value ++
      memberChars (level + 1) rest ++ newLine level ++ ['\x7d']

/-- The further items of an array, each after a comma on a line of its own. -/
def itemChars (level : Nat) : List Json → List Char
  | [] => []
  | item :: rest => ',' :: newLine level ++ chars level item ++ itemChars level rest

/-- The further members of an object, each after a comma on a line of its own. -/
def memberChars (level : Nat) : List (String × Json) → List Char
  | [] => []
  | (key, value) :: rest =>
    ',' :: newLine level ++ stringChars key ++ [':', ' '] ++ chars level value ++
      memberChars level rest

end

/-- A document. -/
def render (value : Json) : String :=
  String.ofList (chars 0 value)

end Json

end EcmaEdition
