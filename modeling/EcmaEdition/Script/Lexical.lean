import EcmaEdition.Text.Utf8

/-!
# The characters of a program

How far the lexical elements of a program reach. Each function counts the characters of one kind of
element at the beginning of a text and gives zero, or nothing, where there is none.
-/

set_option autoImplicit false

namespace EcmaEdition.Script

open EcmaEdition.Text

/-- Whether the next characters are those of a word. -/
def opensWith : List Glyph → List Char → Bool
  | _, [] => true
  | [], _ => false
  | glyph :: rest, c :: word => glyph.char = c && opensWith rest word

/-- Whether the next characters are those of a string. -/
def isAt (text : List Glyph) (word : String) : Bool :=
  opensWith text word.toList

/-- The number of characters up to the first that fails a test. -/
def runLength (test : Char → Bool) : List Glyph → Nat
  | [] => 0
  | glyph :: rest => if test glyph.char then runLength test rest + 1 else 0

/-- White space between the elements of a program: the blanks of ASCII, the space separators of
Unicode, its line and paragraph separators, and three characters without width. -/
def isSpace (c : Char) : Bool :=
  let code := c.toNat
  (0x09 ≤ code && code ≤ 0x0D) || code == 0x20 || code == 0x85 || code == 0xA0 ||
    code == 0x1680 || (0x2000 ≤ code && code ≤ 0x200B) || code == 0x2028 || code == 0x2029 ||
    code == 0x202F || code == 0x205F || code == 0x2060 || code == 0x3000 || code == 0xFEFF

/-- A line feed or one of the two separators, which end a line whatever precedes them. -/
def isNewline (c : Char) : Bool :=
  c = '\n' || c = '\u2028' || c = '\u2029'

/-- A digit of ASCII. -/
def isDecimal (c : Char) : Bool :=
  '0' ≤ c && c ≤ '9'

/-- An octal digit. -/
def isOctal (c : Char) : Bool :=
  '0' ≤ c && c ≤ '7'

/-- A binary digit. -/
def isBinary (c : Char) : Bool :=
  c = '0' || c = '1'

/-- A hexadecimal digit of either case. -/
def isHexadecimal (c : Char) : Bool :=
  isDecimal c || ('a' ≤ c && c ≤ 'f') || ('A' ≤ c && c ≤ 'F')

/-- The punctuation that cannot be part of a name. -/
def punctuation : List Char :=
  ":;\x60\"'@#.,|^&<=>+-*/\\%?!~()[]\x7b\x7d".toList

/-- A character that may continue a name: anything but controls, white space and punctuation. -/
def isNamePart (c : Char) : Bool :=
  0x20 < c.toNat && !isSpace c && !punctuation.contains c

/-- A character that may begin a name. -/
def isNameStart (c : Char) : Bool :=
  isNamePart c && !isDecimal c

/-- The length of a braced code point: hexadecimal digits and the closing brace. -/
def bracedLength (text : List Glyph) : Nat :=
  let digits := runLength isHexadecimal text
  if digits > 0 && opensWith (text.drop digits) ['\x7d'] then digits + 1 else 0

/-- The length of a character escape `\uXXXX` or `\u{X…}`. -/
def unicodeEscapeLength (text : List Glyph) : Nat :=
  if !opensWith text ['\\', 'u'] then 0
  else
    let rest := text.drop 2
    if opensWith rest ['\x7b'] then
      match bracedLength (rest.drop 1) with
      | 0 => 0
      | length => length + 3
    else if runLength isHexadecimal (rest.take 4) = 4 then 6
    else 0

/-- The length of a run of name characters, of which some at the beginning are already known to
belong to an escape. -/
def nameRun : (known : Nat) → List Glyph → Nat
  | _, [] => 0
  | known + 1, _ :: rest => nameRun known rest + 1
  | 0, glyph :: rest =>
    if isNamePart glyph.char then nameRun 0 rest + 1
    else
      match unicodeEscapeLength (glyph :: rest) with
      | 0 => 0
      | length + 1 => nameRun length rest + 1

/-- The length of a name. -/
def nameLength (text : List Glyph) : Nat :=
  match text with
  | [] => 0
  | glyph :: _ => if isDecimal glyph.char then 0 else nameRun 0 text

/-- The characters of a name, as it is written. -/
def nameOf (text : List Glyph) : String :=
  String.ofList ((text.take (nameLength text)).map Glyph.char)

/-- The words that can never be names. -/
def reservedWords : List String :=
  ["break", "case", "catch", "class", "const", "continue", "debugger", "default", "delete", "do",
    "else", "export", "extends", "false", "finally", "for", "function", "if", "import", "in",
    "instanceof", "new", "null", "return", "super", "switch", "this", "throw", "true", "try",
    "typeof", "var", "void", "while", "with"]

/-- Whether a word may name something. -/
def isFreeName (word : String) : Bool :=
  word ≠ "" && !reservedWords.contains word

/-- The length of more digits, each possibly after one underscore. -/
def moreDigits (test : Char → Bool) : List Glyph → Nat
  | [] => 0
  | glyph :: rest =>
    if test glyph.char then moreDigits test rest + 1
    else if glyph.char = '_' then
      match moreDigits test rest with
      | 0 => 0
      | length => if (rest.head?.map Glyph.char).any test then length + 1 else 0
    else 0

/-- The length of a row of digits, with single underscores between them. -/
def digitsLength (test : Char → Bool) (text : List Glyph) : Nat :=
  if (text.head?.map Glyph.char).any test then moreDigits test text else 0

/-- The length of an exponent. -/
def exponentLength (text : List Glyph) : Nat :=
  if opensWith text ['e'] || opensWith text ['E'] then
    let sign := if opensWith (text.drop 1) ['+'] || opensWith (text.drop 1) ['-'] then 1 else 0
    match digitsLength isDecimal (text.drop (1 + sign)) with
    | 0 => 0
    | digits => 1 + sign + digits
  else 0

/-- The length of the digits after a radix mark such as `0x`, with the mark and the suffix `n`. -/
def radixLength (lower upper : Char) (test : Char → Bool) (text : List Glyph) : Nat :=
  if opensWith text ['0', lower] || opensWith text ['0', upper] then
    match digitsLength test (text.drop 2) with
    | 0 => 0
    | digits => if opensWith (text.drop (2 + digits)) ['n'] then digits + 3 else digits + 2
  else 0

/-- Whether a row of digits may be followed by a fraction or an exponent: it is a zero, or its first
digit that is not zero is the first or the second. -/
def admitsFraction (digits : List Glyph) : Bool :=
  match digits.map Glyph.char with
  | ['0'] => true
  | '0' :: c :: _ => '1' ≤ c && c ≤ '9'
  | c :: _ => '1' ≤ c && c ≤ '9'
  | [] => false

/-- The length of a number in decimal notation. -/
def decimalLength (text : List Glyph) : Nat :=
  if opensWith text ['.'] then
    match digitsLength isDecimal (text.drop 1) with
    | 0 => 0
    | digits => 1 + digits + exponentLength (text.drop (1 + digits))
  else
    let digits := digitsLength isDecimal text
    let rest := text.drop digits
    if digits = 0 then 0
    else if opensWith rest ['n'] then digits + 1
    else if !admitsFraction (text.take digits) then digits
    else if opensWith rest ['.'] then
      let fraction := digitsLength isDecimal (rest.drop 1)
      digits + 1 + fraction + exponentLength (rest.drop (1 + fraction))
    else digits + exponentLength rest

/-- The length of a number. -/
def numberLength (text : List Glyph) : Nat :=
  max (max (radixLength 'x' 'X' isHexadecimal text) (radixLength 'b' 'B' isBinary text))
    (max (radixLength 'o' 'O' isOctal text) (decimalLength text))

/-- The length of an escape sequence in a string or a template. -/
def escapeLength (text : List Glyph) : Nat :=
  match text with
  | ⟨'\\', _⟩ :: glyph :: rest =>
    if glyph.char = 'x' then
      if runLength isHexadecimal (rest.take 2) = 2 then 4 else 0
    else if glyph.char = 'u' then unicodeEscapeLength text
    else if isOctal glyph.char then 2 + runLength isOctal (rest.take 2)
    else if glyph.char = '\r' && opensWith rest ['\n'] then 3
    else 2
  | _ => 0

/-- The length of a comment from `/*` to the next `*/`, both included; the text begins after the
former. -/
def blockRest : List Glyph → Option Nat
  | [] => none
  | glyph :: rest =>
    if glyph.char = '*' && opensWith rest ['/'] then some 2
    else (blockRest rest).map (· + 1)

/-- The kind and the length of a comment. Comments that open with `<!--` or `-->` and reach to the
end of the line are looked for only on request. -/
def comment? (html : Bool) (text : List Glyph) : Option (String × Nat) :=
  if opensWith text ['/', '/'] then
    some ("comment", runLength (fun c => !isNewline c && c ≠ '\r') text)
  else if opensWith text ['/', '*'] then
    (blockRest (text.drop 2)).map fun length => ("comment", length + 2)
  else if html && (isAt text "<!--" || isAt text "-->") then
    some ("html_comment", runLength (fun c => !isNewline c) text)
  else none

/-- The length of a regular expression's pattern up to the slash that ends it. A slash inside a
class or after a backslash does not. -/
def patternLength : (inClass escaped : Bool) → List Glyph → Option Nat
  | _, _, [] => none
  | inClass, escaped, glyph :: rest =>
    if glyph.char = '\n' then none
    else if escaped then (patternLength inClass false rest).map (· + 1)
    else if glyph.char = '\\' then (patternLength inClass true rest).map (· + 1)
    else if inClass then (patternLength (glyph.char ≠ ']') false rest).map (· + 1)
    else if glyph.char = '/' then some 0
    else (patternLength (glyph.char = '[') false rest).map (· + 1)

/-- The length of plain text in a template: up to a backtick, a backslash or the opening of a
substitution. -/
def templateTextLength : List Glyph → Nat
  | [] => 0
  | glyph :: rest =>
    if glyph.char = '\x60' || glyph.char = '\\' then 0
    else if glyph.char = '$' && opensWith rest ['\x7b'] then 0
    else templateTextLength rest + 1

end EcmaEdition.Script
