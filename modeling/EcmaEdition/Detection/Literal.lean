import EcmaEdition.Tree.Node

/-!
# Constant strings, object keys and arguments

What can be read off a literal without running the program: the value of a constant string, the
keys that an object literal spells out, and the arguments of a call.
-/

set_option autoImplicit false

namespace EcmaEdition.Literal

/-- The character that a one-letter escape stands for. An escape that is not in the list stands for
the letter itself. -/
def escapedChar : Char → Char
  | 'n' => '\n'
  | 'r' => '\r'
  | 't' => '\t'
  | 'b' => '\x08'
  | 'f' => '\x0c'
  | 'v' => '\x0b'
  | '0' => '\x00'
  | c => c

/-- The value of an escape sequence. Only a backslash with a single character after it is decoded;
longer escapes stay as they are written. -/
def escapeValue (written : List Char) : List Char :=
  match written with
  | [_, c] => [escapedChar c]
  | _ => written

/-- What one part of a string literal adds to its value. -/
def partValue (part : Node) : List Char :=
  if part.kind = "string_fragment" then part.chars
  else if part.kind = "escape_sequence" then escapeValue part.chars
  else []

/-- The value of a string literal, or of a template literal without substitutions. A template
without fragments gives its characters between the two backticks as they are written. -/
def stringValue? (node : Node) : Option (List Char) :=
  if node.kind ≠ "string" ∧ node.kind ≠ "template_string" then none
  else
    let parts := node.namedChildren
    if parts.any (·.kind == "template_substitution") then none
    else if node.kind = "template_string" && !parts.any (·.kind == "string_fragment") then
      some (node.chars.drop 1).dropLast
    else some (parts.flatMap partValue)

/-- The name that a property key spells out: an identifier or a string. -/
def keyName? (key : Node) : Option (List Char) :=
  if key.kind = "property_identifier" ∨ key.kind = "shorthand_property_identifier" then
    some key.chars
  else if key.kind = "string" then stringValue? key
  else none

/-- Whether a member of an object literal is a pair or a shorthand with the given key. -/
def memberHasKey (key : List Char) (member : Node) : Bool :=
  if member.kind = "pair" then
    match member.child? "key" with
    | some name => keyName? name == some key
    | none => false
  else member.kind = "shorthand_property_identifier" && member.chars == key

/-- Whether a node is an object literal with a member of the given key. -/
def objectHasKey (node : Node) (key : List Char) : Bool :=
  node.kind = "object" && node.namedChildren.any (memberHasKey key)

/-- The arguments of a call or construction, comments left out. A template literal in the place of
an argument list counts as no arguments. -/
def arguments (call : Node) : List Node :=
  match call.child? "arguments" with
  | some list =>
    if list.kind = "arguments" then list.namedChildren.filter (·.kind != "comment") else []
  | none => []

end EcmaEdition.Literal
