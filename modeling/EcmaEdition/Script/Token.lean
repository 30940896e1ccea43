import EcmaEdition.Script.Cursor
import EcmaEdition.Script.Semicolon

/-!
# Tokens

Scans for punctuation, keywords, names and comments. A scan for a construct begins at its first
character; white space and comments before it are read by whoever contains it, and the comments
become nodes there.
-/

set_option autoImplicit false

namespace EcmaEdition.Script

open EcmaEdition.Text Scan

/-- Passes over white space. -/
def skipSpace : Scan Unit := do
  let cursor ← get
  set (cursor.skip (runLength isSpace cursor.rest))

/-- Reads the comments and the white space before a token. Comments in the style of HTML are among
them unless an operator could stand here. -/
def trivia (html : Bool) : Scan (List Node) := do
  skipSpace
  collect do
    match comment? html (← ahead) with
    | some (kind, length) =>
      let comment ← leaf kind true length
      skipSpace
      return some [comment]
    | none => return none

/-- The comments before a construct and then the construct. -/
def within (scan : Scan Node) : Scan (List Node) := do
  let comments ← trivia true
  let node ← scan
  return comments ++ [node]

/-- A construct under a field name, with the comments before it. -/
def field (name : String) (scan : Scan Node) : Scan (List Node) :=
  within do return (← scan).withField name

/-- The name that begins here, or the empty string. -/
def peekName : Scan String := do
  return nameOf (← ahead)

/-- Punctuation that begins here. -/
def markHere (text : String) : Scan Node := do
  require (isAt (← ahead) text)
  leaf text false text.length

/-- Punctuation with the comments before it. -/
def mark (text : String) : Scan (List Node) :=
  within (markHere text)

/-- A keyword that begins here. -/
def keywordHere (word : String) : Scan Node := do
  require ((← peekName) = word)
  leaf word false word.length

/-- A keyword with the comments before it. -/
def keyword (word : String) : Scan (List Node) :=
  within (keywordHere word)

/-- Any name, reserved or not, as a node of a kind. -/
def anyName (kind : String) : Scan Node := do
  let length := nameLength (← ahead)
  require (length > 0)
  leaf kind true length

/-- A name that is not reserved, as a node of a kind. -/
def freeName (kind : String) : Scan Node := do
  require (isFreeName (← peekName))
  anyName kind

/-- A private name. -/
def privateName : Scan Node := do
  let text ← ahead
  require (opensWith text ['#'])
  let length := nameLength (text.drop 1)
  require (length > 0)
  leaf "private_property_identifier" true (length + 1)

/-- Whether punctuation follows after white space and comments. -/
def markFollows (text : String) : Scan Bool :=
  lookAhead do
    let _ ← trivia true
    return isAt (← ahead) text

/-- The name that follows after white space and comments, or the empty string. -/
def nameFollows : Scan String :=
  lookAhead do
    let _ ← trivia true
    peekName

/-- Whether a semicolon counts as written here. -/
def semicolonImplied (afterExpression : Bool) : Scan Bool := do
  let cursor ← get
  return semicolonWithin afterExpression ((← read).size - cursor.offset + 1) cursor.rest

/-- The end of a statement: a semicolon, written or implied. Comments before it belong to the
statement. -/
def statementEnd (afterExpression : Bool) : Scan (List Node) := do
  let (nodes, ended) ← repeatWhile (fun (nodes, ended) => do
    if ended then return none
    else if ← semicolonImplied afterExpression then return some (nodes, true)
    else
      skipSpace
      match comment? false (← ahead) with
      | some (kind, length) => return some (nodes ++ [← leaf kind true length], false)
      | none => return some (nodes ++ [← markHere ";"], true)) (([] : List Node), false)
  require ended
  return nodes

/-- Where an expression stands: whether the operator `in` belongs to it, and whether a statement may
end behind it. -/
structure Context where
  allowIn : Bool := true
  mayEnd : Bool := false
  deriving DecidableEq, Repr

/-- Whether a statement ends behind the expression that has been read. -/
def endsExpression (context : Context) : Scan Bool :=
  if context.mayEnd then semicolonImplied true else pure false

/-- The comments before an operator, unless the statement ends before it. -/
def beforeOperator (context : Context) : Scan (Option (List Node)) := do
  let (comments, ended, _) ← repeatWhile (fun (comments, ended, done) => do
    if done then return none
    else if ← endsExpression context then return some (comments, true, true)
    else
      skipSpace
      match comment? false (← ahead) with
      | some (kind, length) => return some (comments ++ [← leaf kind true length], false, false)
      | none => return some (comments, ended, true)) (([] : List Node), false, false)
  return if ended then none else some comments

/-- Tries to read on at an operator. If there is none that the scan accepts, it stays in place. -/
def atOperator {α : Type} (context : Context) (scan : List Node → Scan (Option α)) :
    Scan (Option α) := do
  let cursor ← get
  let result ← match ← beforeOperator context with
    | some comments => scan comments
    | none => pure none
  if result.isNone then set cursor
  return result

end EcmaEdition.Script
