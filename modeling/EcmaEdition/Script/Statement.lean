import EcmaEdition.Script.Exchange

/-!
# Statements

Each statement is told by its first word or character. What begins with none of those words is a
label or an expression.
-/

set_option autoImplicit false

namespace EcmaEdition.Script

open EcmaEdition.Text Scan

/-- Statements up to a place where a test holds. -/
def statementsUpTo (read : Reader) (stop : Scan Bool) : Scan (List Node) :=
  collect do
    if ← stop then return none else return some (← within (read .statement))

/-- A block. -/
def block (read : Reader) : Scan Node :=
  build "statement_block" do
    let opening ← markHere "\x7b"
    let nodes ← statementsUpTo read (markFollows "\x7d")
    return opening :: nodes ++ (← mark "\x7d")

/-- An expression as a statement. -/
def expressionStatement (read : Reader) : Scan Node :=
  build "expression_statement" do
    let expression ← expressions read { mayEnd := true }
    return expression :: (← statementEnd true)

/-- A word and the end of the statement. -/
def bareStatement (kind word : String) : Scan Node :=
  build kind do
    let word ← keyword word
    return word ++ (← statementEnd false)

/-- The words `break` or `continue`, perhaps with a label. -/
def jumpStatement (kind word : String) : Scan Node :=
  build kind do
    let word ← keyword word
    let label ←
      if !(← semicolonImplied false) && isFreeName (← nameFollows) then
        field "label" (freeName "statement_identifier")
      else pure []
    return word ++ label ++ (← statementEnd false)

/-- The word `return`, perhaps with expressions on the same line. -/
def returnStatement (read : Reader) : Scan Node :=
  build "return_statement" do
    let word ← keyword "return"
    if (← semicolonImplied false) || (← markFollows ";") then
      return word ++ (← statementEnd false)
    else
      let value ← within (expressions read { mayEnd := true })
      return word ++ value ++ (← statementEnd true)

/-- The word `throw` and what is thrown. -/
def throwStatement (read : Reader) : Scan Node :=
  build "throw_statement" do
    let word ← keyword "throw"
    let value ← within (expressions read { mayEnd := true })
    return word ++ value ++ (← statementEnd true)

/-- A statement under a field name. -/
def body (read : Reader) : Scan (List Node) :=
  field "body" (read .statement)

/-- A conditional statement. -/
def ifStatement (read : Reader) : Scan Node :=
  build "if_statement" do
    let word ← keyword "if"
    let condition ← field "condition" (parenthesized read)
    let consequence ← field "consequence" (read .statement)
    let alternative ←
      if (← nameFollows) = "else" then
        field "alternative" <| build "else_clause" do
          return (← keyword "else") ++ (← within (read .statement))
      else pure []
    return word ++ condition ++ consequence ++ alternative

/-- A word, an expression in parentheses, and a statement. -/
def guardedStatement (read : Reader) (kind word fieldName : String) : Scan Node :=
  build kind do
    let word ← keyword word
    let guard ← field fieldName (parenthesized read)
    return word ++ guard ++ (← body read)

/-- A loop with its condition behind it. The semicolon at its end is optional. -/
def doStatement (read : Reader) : Scan Node :=
  build "do_statement" do
    let word ← keyword "do"
    let body ← body read
    let condition ← keyword "while"
    let condition := condition ++ (← field "condition" (parenthesized read))
    return word ++ body ++ condition ++ (← optionalMark ";")

/-- One case of a switch up to the next one. -/
def switchCase (read : Reader) : Scan Node := do
  let start ← get
  let ends : Scan Bool := do
    let word ← nameFollows
    return word = "case" || word = "default" || (← markFollows "\x7d")
  if (← peekName) = "default" then
    let word ← keyword "default"
    let colon ← mark ":"
    close "switch_default" start (word ++ colon ++ (← statementsUpTo read ends))
  else
    let word ← keyword "case"
    let value ← field "value" (expressions read {})
    let colon ← mark ":"
    close "switch_case" start (word ++ value ++ colon ++ (← statementsUpTo read ends))

/-- A switch. -/
def switchStatement (read : Reader) : Scan Node :=
  build "switch_statement" do
    let word ← keyword "switch"
    let value ← field "value" (parenthesized read)
    let body ← field "body" <| build "switch_body" do
      let opening ← mark "\x7b"
      let cases ← collect do
        if ← markFollows "\x7d" then return none else return some (← within (switchCase read))
      return opening ++ cases ++ (← mark "\x7d")
    return word ++ value ++ body

/-- A clause that catches an exception, perhaps under a name. -/
def catchClause (read : Reader) : Scan Node :=
  build "catch_clause" do
    let word ← keyword "catch"
    let parameter ←
      if ← markFollows "(" then
        let opening ← mark "("
        let parameter ← field "parameter" (binding read)
        pure (opening ++ parameter ++ (← mark ")"))
      else pure []
    return word ++ parameter ++ (← field "body" (read .block))

/-- A block with its clauses, all of which are optional. -/
def tryStatement (read : Reader) : Scan Node :=
  build "try_statement" do
    let word ← keyword "try"
    let body ← field "body" (read .block)
    let handler ←
      if (← nameFollows) = "catch" then field "handler" (catchClause read) else pure []
    let finalizer ←
      if (← nameFollows) = "finally" then
        field "finalizer" <| build "finally_clause" do
          return (← keyword "finally") ++ (← field "body" (read .block))
      else pure []
    return word ++ body ++ handler ++ finalizer

/-- What the variable of a loop over values is declared by, up to the word that the values follow.
Only after `var` it may have an initial value. -/
def loopDeclaration (read : Reader) : Scan (List Node) := do
  let word ← peekName
  let (_, words) ← ofOption (declarationWords? word)
  let words ← keywords words
  let left ← field "left" (binding read)
  if word = "var" then
    let value ← initializer read { allowIn := false }
    return words ++ left ++ value.getD []
  else return words ++ left

/-- What a loop over values assigns to, up to the word that the values follow. -/
def loopTarget (read : Reader) : Scan (List Node) := do
  let node ← read (.assignment { allowIn := false })
  return [(← ofOption (asAssignee? node)).withField "left"]

/-- The header of a loop over keys or values from its variable on. -/
def loopOver (read : Reader) (left : Scan (List Node)) : Scan (List Node) := do
  let comments ← trivia true
  let left ← left
  let word ← nameFollows
  require (word = "in" || word = "of")
  let operator ← field "operator" (keywordHere word)
  let right ← field "right" (expressions read {})
  return comments ++ left ++ operator ++ right ++ (← mark ")")

/-- An expression that may be left out, and punctuation. -/
def optionalExpressions (read : Reader) (fieldName stop : String) : Scan (List Node) := do
  let value ← if ← markFollows stop then pure [] else field fieldName (expressions read {})
  return value ++ (← mark stop)

/-- The header of a loop with a condition, from its first part on. -/
def loopWhile (read : Reader) : Scan (List Node) := do
  let comments ← trivia true
  let initial ← attempt (field "initializer" (declaration read))
  let initial ← match initial with
    | some nodes => pure nodes
    | none => optionalExpressions read "initializer" ";"
  let condition ← optionalExpressions read "condition" ";"
  let increment ← optionalExpressions read "increment" ")"
  return comments ++ initial ++ condition ++ increment

/-- A loop with the word `for`. -/
def forStatement (read : Reader) : Scan Node := do
  let start ← get
  let word ← keyword "for"
  let await ← if (← nameFollows) = "await" then keyword "await" else pure []
  let opening ← mark "("
  let header ← attempt (loopOver read (loopDeclaration read) <|> loopOver read (loopTarget read))
  match header with
  | some header =>
    close "for_in_statement" start (word ++ await ++ opening ++ header ++ (← body read))
  | none =>
    require await.isEmpty
    let header ← loopWhile read
    close "for_statement" start (word ++ opening ++ header ++ (← body read))

/-- A statement with a label. -/
def labeledStatement (read : Reader) : Scan Node :=
  build "labeled_statement" do
    let label ← freeName "statement_identifier"
    let colon ← mark ":"
    return label.withField "label" :: colon ++ (← body read)

/-- A declaration or, if there is none, an expression. -/
def declarationOr (read : Reader) (declaration : Scan Node) : Scan Node := do
  match ← attempt declaration with
  | some node => return node
  | none => expressionStatement read

/-- A statement that begins with a word that may also be a name, or with an expression. -/
def openStatement (read : Reader) (word : String) : Scan Node := do
  let isLabel : Bool ← lookAhead do
    if isFreeName word then
      let _ ← freeName "statement_identifier"
      markFollows ":"
    else return false
  if isLabel then labeledStatement read
  else if ← declarationAhead then declarationOr read (declaration read)
  else if ← asyncFunctionAhead then declarationOr read (function read true)
  else expressionStatement read

/-- A class or an export with decorators before it. -/
def decoratedStatement (read : Reader) : Scan Node := do
  let start ← get
  let isExport : Bool ← lookAhead do
    let _ ← decorators read
    return (← nameFollows) = "export"
  if isExport then exportFrom read start (← decorators read)
  else declarationOr read (classNode read true)

/-- An import as a statement or, before a parenthesis or a point, in an expression. -/
def importOr (read : Reader) : Scan Node := do
  let isOperand : Bool ← lookAhead do
    let _ ← keywordHere "import"
    anyMarkFollows ["(", "."]
  if isOperand then expressionStatement read else importStatement read

/-- A statement that begins with a word. -/
def keywordStatement (read : Reader) (word : String) : Scan Node := do
  match word with
  | "if" => ifStatement read
  | "for" => forStatement read
  | "while" => guardedStatement read "while_statement" word "condition"
  | "do" => doStatement read
  | "switch" => switchStatement read
  | "try" => tryStatement read
  | "with" => guardedStatement read "with_statement" word "object"
  | "return" => returnStatement read
  | "throw" => throwStatement read
  | "break" => jumpStatement "break_statement" word
  | "continue" => jumpStatement "continue_statement" word
  | "debugger" => bareStatement "debugger_statement" word
  | "var" | "const" => declaration read
  | "function" => declarationOr read (function read true)
  | "class" => declarationOr read (classNode read true)
  | "import" => importOr read
  | "export" => exportFrom read (← get) []
  | _ => openStatement read word

/-- A statement. -/
def statement (read : Reader) : Scan Node := do
  match ← peek with
  | some '\x7b' => blockOr read (expressionStatement read)
  | some ';' => build "empty_statement" (return [← markHere ";"])
  | some '@' => decoratedStatement read
  | _ => keywordStatement read (← peekName)

end EcmaEdition.Script
