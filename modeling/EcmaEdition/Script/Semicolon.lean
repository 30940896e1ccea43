import EcmaEdition.Script.Lexical

/-!
# Semicolons that are not written

Where a statement may end, a semicolon counts as written before a closing brace, at the end of the
source, and at a line break unless what follows the break could continue the statement.
-/

set_option autoImplicit false

namespace EcmaEdition.Script

open EcmaEdition.Text

/-- White space for the purpose of finding the end of a statement. Spaces that forbid a line break
are not among it. -/
def isBreakingSpace (c : Char) : Bool :=
  let code := c.toNat
  (0x09 ≤ code && code ≤ 0x0D) || code == 0x20 || code == 0x1680 ||
    (0x2000 ≤ code && code ≤ 0x2006) || (0x2008 ≤ code && code ≤ 0x200A) ||
    code == 0x2028 || code == 0x2029 || code == 0x205F || code == 0x3000

/-- A letter of ASCII. -/
def isLetter (c : Char) : Bool :=
  ('a' ≤ c && c ≤ 'z') || ('A' ≤ c && c ≤ 'Z')

/-- What comments lead up to. -/
inductive Lead where
  /-- A slash that begins no comment. -/
  | slash
  /-- More text on the line on which the last comment, a block, ends. Whether it had a line break.
  -/
  | block (broken : Bool) (rest : List Glyph)
  /-- Text after white space and comments. -/
  | text (rest : List Glyph)

/-- The rest after a block comment, with whether the comment had a line break. -/
def afterBlock : (broken : Bool) → List Glyph → Bool × List Glyph
  | broken, [] => (broken, [])
  | broken, glyph :: rest =>
    if glyph.char = '*' && opensWith rest ['/'] then (broken, rest.drop 1)
    else afterBlock (broken || isNewline glyph.char) rest

/-- Passes over white space and comments. Unless all comments are to be passed over, it stops
right behind the first block. The bound is at least the number of comments. -/
def passComments (all : Bool) : (bound : Nat) → (broken : Bool) → List Glyph → Lead
  | 0, _, text => .text text
  | bound + 1, broken, text =>
    let text := text.drop (runLength isBreakingSpace text)
    if opensWith text ['/', '/'] then
      passComments all bound broken (text.drop (runLength (!isNewline ·) text))
    else if opensWith text ['/', '*'] then
      let (broken, rest) := afterBlock broken (text.drop 2)
      if !all && !opensWith rest ['/'] then .block broken rest
      else passComments all bound broken rest
    else if opensWith text ['/'] then .slash
    else .text text

/-- Whether the text after a line break begins a statement of its own rather than continuing the one
before. -/
def beginsStatement (text : List Glyph) : Bool :=
  match (text.take 2).map Glyph.char with
  | [] => true
  | c :: next =>
    if "\x60,:;*%><=[(?^|&/".toList.contains c then false
    else if c = '.' then next.any isDecimal
    else if c = '+' then next = ['+']
    else if c = '-' then next = ['-']
    else if c = '!' then next ≠ ['=']
    else if c = 'i' && next = ['n'] then
      let rest := text.drop 2
      let ends (rest : List Glyph) : Bool := !(rest.head?.map Glyph.char).any isLetter
      if ends rest then false
      else if isAt rest "stanceof" then !ends (rest.drop 8)
      else true
    else true

/-- Whether a semicolon counts as written here. After an expression a comment with a line break in
it does not end the statement by itself; elsewhere it does, unless a comma or an equals sign
follows. The bound is at least the number of characters. -/
def semicolonWithin (afterExpression : Bool) : (bound : Nat) → List Glyph → Bool
  | 0, _ => true
  | bound + 1, text =>
    match text with
    | [] => true
    | glyph :: rest =>
      if glyph.char = '/' then
        match passComments false bound false text with
        | .slash => false
        | .block broken behind =>
          (broken && !afterExpression && !goesOn behind) || onward bound behind
        | .text behind => (!afterExpression && !goesOn behind) || onward bound behind
      else onward bound (glyph :: rest)
where
  /-- A comma or an equals sign continues a declaration. -/
  goesOn (text : List Glyph) : Bool :=
    opensWith text [','] || opensWith text ['=']
  /-- Goes on at a character that begins no comment. -/
  onward (bound : Nat) : List Glyph → Bool
    | [] => false
    | glyph :: rest =>
      if glyph.char = '\x7d' then true
      else if isNewline glyph.char then
        match passComments true bound false rest with
        | .text text => beginsStatement text
        | _ => false
      else if isBreakingSpace glyph.char then semicolonWithin afterExpression bound rest
      else false

end EcmaEdition.Script
