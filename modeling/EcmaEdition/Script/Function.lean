import EcmaEdition.Script.Literal

/-!
# Functions

Parameter lists, functions with the word `function`, and the ends of arrow functions. What stands
before an arrow is read as a list in parentheses and turns out to be a parameter list only there.
-/

set_option autoImplicit false

namespace EcmaEdition.Script

open EcmaEdition.Text Scan

/-- The parameter list that a list in parentheses turns out to be. -/
def asParameters? (list : Listing) : Option (List Node) :=
  if list.holes then none else asElements? list.nodes

/-- A parameter list. -/
def parameters (read : Reader) : Scan Node := do
  let start ← get
  let list ← items read "(" ")"
  close "formal_parameters" start (← ofOption (asParameters? list))

/-- A parameter list and a body. -/
def signature (read : Reader) : Scan (List Node) := do
  let parameters ← field "parameters" (parameters read)
  let body ← field "body" (read .block)
  return parameters ++ body

/-- The kind of a function with the word `function`. -/
def functionKind (declared generator : Bool) : String :=
  match declared, generator with
  | true, true => "generator_function_declaration"
  | true, false => "function_declaration"
  | false, true => "generator_function"
  | false, false => "function_expression"

/-- Punctuation if it follows. -/
def optionalMark (text : String) : Scan (List Node) := do
  if ← markFollows text then mark text else return []

/-- A name if a free one follows. -/
def optionalName : Scan (List Node) := do
  if isFreeName (← nameFollows) then field "name" (freeName "identifier") else return []

/-- A function from its modifier `async`, if it has one. A declared function has a name. -/
def function (read : Reader) (declared : Bool) : Scan Node := do
  let start ← get
  let async ← if (← peekName) = "async" then keyword "async" else pure []
  let word ← keyword "function"
  let star ← optionalMark "*"
  let name ← optionalName
  require (!declared || !name.isEmpty)
  let rest ← signature read
  close (functionKind declared (!star.isEmpty)) start (async ++ word ++ star ++ name ++ rest)

/-- Whether the word `async` is the modifier of a function that follows it, which it is not if a
semicolon counts as written between the two. -/
def asyncFunctionAhead : Scan Bool :=
  lookAhead do
    if (← peekName) = "async" then
      let _ ← keywordHere "async"
      return !(← semicolonImplied true) && (← nameFollows) = "function"
    else return false

/-- Whether braces may be those of an object where a block could stand as well. They are not if a
reserved word is the first thing in them. -/
def objectMayOpen : Scan Bool :=
  lookAhead do
    let _ ← markHere "\x7b"
    return !reservedWords.contains (← nameFollows)

/-- A block or, if what stands between the braces does not make one, what another scan reads. -/
def blockOr (read : Reader) (other : Scan Node) : Scan Node := do
  match ← attempt (read .block) with
  | some block => return block
  | none =>
    require (← objectMayOpen)
    other

/-- The end of an arrow function from the arrow on, which the given nodes precede. -/
def arrow (read : Reader) (context : Context) (start : Cursor) (front : List Node) :
    Scan Node := do
  let sign ← markHere "=>"
  let body ← field "body" do
    if isAt (← ahead) "\x7b" then blockOr read (expression read context)
    else expression read context
  close "arrow_function" start (front ++ sign :: body)

/-- Reads the end of an arrow function if an arrow follows. -/
def arrow? (read : Reader) (context : Context) (start : Cursor) (front : Scan (List Node)) :
    Scan (Option Node) :=
  atOperator context fun comments => do
    if isAt (← ahead) "=>" then
      return some (← arrow read context start ((← front) ++ comments))
    else return none

end EcmaEdition.Script
