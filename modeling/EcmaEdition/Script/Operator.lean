import EcmaEdition.Script.Lexical

/-!
# Operators between two operands

Which operator begins at a place, how tightly it binds, and which operators assign.
-/

set_option autoImplicit false

namespace EcmaEdition.Script

open EcmaEdition.Text

/-- The pieces of punctuation that can stand behind an operand and begin with the character of an
operator. A piece precedes those that are a beginning of it. -/
def operatorMarks : List String :=
  [">>>=", "===", "!==", "**=", "<<=", ">>=", ">>>", "&&=", "||=", "??=", "=>", "==", "!=", "<=",
    ">=", "&&", "||", "??", "**", "++", "--", "+=", "-=", "*=", "/=", "%=", "&=", "|=", "^=", "<<",
    ">>", "=", "<", ">", "+", "-", "*", "/", "%", "&", "|", "^"]

/-- The operator marks that assign by another operator. -/
def augmentingMarks : List String :=
  ["+=", "-=", "*=", "/=", "%=", "^=", "&=", "|=", ">>=", ">>>=", "<<=", "**=", "&&=", "||=", "??="]

/-- How tightly a binary operator binds. -/
def bindingLevel? : String → Option Nat
  | "**" => some 14
  | "*" | "/" | "%" => some 13
  | "+" | "-" => some 12
  | "<<" | ">>" | ">>>" => some 11
  | "<" | "<=" | ">" | ">=" | "in" | "instanceof" => some 10
  | "==" | "===" | "!=" | "!==" => some 9
  | "&" => some 8
  | "^" => some 7
  | "|" => some 6
  | "&&" => some 5
  | "||" => some 4
  | "??" => some 3
  | _ => none

/-- The operator or the word that stands at a place behind an operand. -/
def operatorAt? (text : List Glyph) : Option String :=
  match nameOf text with
  | "" => operatorMarks.find? (isAt text ·)
  | word => some word

/-- The binary operator at a place and how tightly it binds. The operator `in` can be left out. -/
def binaryOperatorAt? (allowIn : Bool) (text : List Glyph) : Option (String × Nat) := do
  let operator ← operatorAt? text
  let level ← bindingLevel? operator
  if operator = "in" && !allowIn then none else some (operator, level)

/-- Whether an operator of a level takes over what an operator of another level, which precedes it,
has to its right. Operators of one level group from the left, powers from the right. -/
def bindsTighter (level previous : Nat) : Bool :=
  previous < level || (previous = level && level = 14)

/-- Whether the question mark of a conditional stands at a place: it begins neither `??` nor, unless
a digit follows, `?.`. -/
def conditionalAt (text : List Glyph) : Bool :=
  opensWith text ['?'] && !opensWith text ['?', '?'] &&
    (!opensWith text ['?', '.'] || (text.drop 2).head?.any (isDecimal ·.char))

end EcmaEdition.Script
