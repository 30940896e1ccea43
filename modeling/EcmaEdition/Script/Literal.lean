import EcmaEdition.Script.Goal

/-!
# Literals

Numbers, strings, templates, regular expressions and arrays.
-/

set_option autoImplicit false

namespace EcmaEdition.Script

open EcmaEdition.Text Scan

/-- A number. -/
def number : Scan Node := do
  let length := numberLength (← ahead)
  require (length > 0)
  leaf "number" true length

/-- A part of a string or a template: plain text of the given length or, if there is none, an escape
sequence. -/
def literalPart (length : Nat) : Scan (Option Node) := do
  if length > 0 then return some (← leaf "string_fragment" true length)
  else
    match escapeLength (← ahead) with
    | 0 => return none
    | length => return some (← leaf "escape_sequence" true length)

/-- A string. White space, even a line break, and comments may stand before its closing quote, but
nothing of the string behind them. -/
def string : Scan Node :=
  build "string" do
    let quote ← ofOption (← peek)
    require (quote = '"' || quote = '\'')
    let opening ← leaf quote.toString false 1
    let isPlain (c : Char) : Bool := c ≠ quote && c ≠ '\\' && c ≠ '\n' && c ≠ '\r'
    let parts ← collect do
      return (← literalPart (runLength isPlain (← ahead))).map ([·])
    return opening :: parts ++ (← mark quote.toString)

/-- An expression in a template. -/
def substitution (read : Reader) : Scan Node :=
  build "template_substitution" do
    let opening ← markHere "$\x7b"
    return opening :: (← within (expressions read {})) ++ (← mark "\x7d")

/-- A template. -/
def template (read : Reader) : Scan Node :=
  build "template_string" do
    let opening ← markHere "\x60"
    let parts ← collect do
      let text ← ahead
      if isAt text "$\x7b" then return some [← substitution read]
      else return (← literalPart (templateTextLength text)).map ([·])
    return opening :: parts ++ [← markHere "\x60"]

/-- A regular expression with its flags. -/
def regex : Scan Node :=
  build "regex" do
    let opening ← markHere "/"
    let length ← ofOption (patternLength false false (← ahead))
    require (length > 0)
    let pattern ← leaf "regex_pattern" true length
    let closing ← markHere "/"
    let start := [opening, pattern.withField "pattern", closing]
    match runLength (fun c => 'a' ≤ c && c ≤ 'z') (← ahead) with
    | 0 => return start
    | length => return start ++ [(← leaf "regex_flags" true length).withField "flags"]

/-- An array, which may still turn out to be a target. -/
def array (read : Reader) : Scan Node := do
  let start ← get
  let list ← items read "[" "]"
  close "array" start list.nodes

end EcmaEdition.Script
