import EcmaEdition.Script.Markup
import EcmaEdition.Script.Member

/-!
# Operands

What operators stand between: literals, names, functions, and what is made from them by calls,
properties and the operators that apply to a single operand.
-/

set_option autoImplicit false

namespace EcmaEdition.Script

open EcmaEdition.Text Scan

/-- What begins with a list in parentheses: the expressions between them or, if an arrow follows, a
function. -/
def parenthesis (read : Reader) (context : Context) : Scan Node := do
  let start ← get
  let list ← items read "(" ")"
  let stop ← get
  let front : Scan (List Node) := do
    let nodes ← ofOption (asParameters? list)
    return [(← span "formal_parameters" start stop nodes).withField "parameters"]
  match ← arrow? read context start front with
  | some node => return node
  | none =>
    let isSpread := list.elements.any (·.kind = "spread_element")
    require (!list.holes && !list.trailing && !list.isEmpty && !isSpread &&
      areSettled list.elements.toList)
    let content ← match list.elements.toList with
      | [node] => pure node
      | nodes => span "sequence_expression" list.first list.last nodes
    span "parenthesized_expression" start stop
      (list.before.toList ++ content :: list.behind.toList)

/-- A free name or, if an arrow follows it, a function. -/
def nameOrArrow (read : Reader) (context : Context) : Scan Node := do
  let start ← get
  let name ← freeName "identifier"
  match ← arrow? read context start (pure [name.withField "parameter"]) with
  | some node => return node
  | none => return name

/-- What begins with the word `async` and a list in parentheses: an arrow function or a call. -/
def asyncCall (read : Reader) (context : Context) : Scan Node := do
  let start ← get
  let word ← keywordHere "async"
  let comments ← trivia true
  let first ← get
  let list ← items read "(" ")"
  let stop ← get
  let front : Scan (List Node) := do
    let nodes ← ofOption (asParameters? list)
    let parameters ← span "formal_parameters" first stop nodes
    return word :: comments ++ [parameters.withField "parameters"]
  match ← arrow? read context start front with
  | some node => return node
  | none =>
    require (areSettled list.nodes)
    let arguments ← span "arguments" first stop list.nodes
    let name := asKind "identifier" { word.label with named := true } []
    span "call_expression" start stop
      (name.withField "function" :: comments ++ [arguments.withField "arguments"])

/-- What begins with the word `async`: a function or a call, or just the name. It is just the name
if a semicolon counts as written behind it. -/
def asyncOperand (read : Reader) (context : Context) : Scan Node := do
  let start ← get
  let ends ← lookAhead do
    let _ ← keywordHere "async"
    endsExpression context
  if ends then freeName "identifier"
  else
    let (next, isList) ← lookAhead do
      let _ ← keywordHere "async"
      return (← nameFollows, ← markFollows "(")
    if next = "function" then function read false
    else if isList then asyncCall read context
    else if isFreeName next then
      let withParameter ← attempt do
        let word ← keywordHere "async"
        let name ← field "parameter" (freeName "identifier")
        ofOption (← arrow? read context start (pure (word :: name)))
      match withParameter with
      | some node => return node
      | none => freeName "identifier"
    else nameOrArrow read context

/-- A property of a word that is no object: `new.target` or `import.meta`. -/
def metaProperty (word property : String) : Scan Node :=
  build "meta_property" do
    return (← keyword word) ++ (← mark ".") ++ (← keyword property)

/-- What begins with the word `import` in an expression. -/
def importOperand (read : Reader) : Scan Node := do
  let start ← get
  let name ← anyName "import"
  if ← markFollows "." then
    set start
    metaProperty "import" "meta"
  else
    let arguments ← field "arguments" (argumentList read)
    close "call_expression" start (name.withField "function" :: arguments)

/-- The words that are operands by themselves, each with a node of its own kind. -/
def constants : List String :=
  ["this", "super", "true", "false", "null", "undefined"]

/-- What begins with a name. -/
def wordOperand (read : Reader) (context : Context) (word : String) : Scan Node :=
  if constants.contains word then anyName word
  else
    match word with
    | "function" => function read false
    | "class" => classNode read false
    | "import" => importOperand read
    | "async" => asyncOperand read context
    | _ => nameOrArrow read context

/-- An operand without properties, calls and operators. -/
def primary (read : Reader) (context : Context) : Scan Node := do
  match ← peek with
  | some '(' => parenthesis read context
  | some '[' => array read
  | some '\x7b' => object read
  | some '"' | some '\'' => string
  | some '\x60' => template read
  | some '/' => regex
  | some '<' => read .markup
  | some '@' => classNode read false
  | some c =>
    if isDecimal c || c = '.' then number
    else wordOperand read context (← peekName)
  | none => failure

/-- The name behind a point. -/
def propertyName : Scan Node := do
  if isAt (← ahead) "#" then privateName else anyName "property_identifier"

/-- An index in brackets. -/
def index (read : Reader) : Scan (List Node) := do
  let opening ← mark "["
  let index ← field "index" (expressions read {})
  return opening ++ index ++ (← mark "]")

/-- What an operand becomes by one property, index or call behind it, given the comments before
that. Without calls, as behind `new`, a list of arguments is left alone. -/
def extend (read : Reader) (calls : Bool) (start : Cursor) (operand : Node)
    (comments : List Node) : Scan (Option Node) := do
  let text ← ahead
  let made (kind role : String) (rest : List Node) : Scan (Option Node) := do
    let operand ← settle operand
    return some (← close kind start (operand.withField role :: comments ++ rest))
  let isFraction := (text.drop 1).head?.any (isDecimal ·.char)
  if isAt text "?." && !(text.drop 2).head?.any (isDecimal ·.char) then
    let chain ← leaf "optional_chain" true 2
    let chain := chain.withField "optional_chain"
    if ← markFollows "(" then
      made "call_expression" "function" (chain :: (← field "arguments" (argumentList read)))
    else if ← markFollows "[" then made "subscript_expression" "object" (chain :: (← index read))
    else made "member_expression" "object" (chain :: (← field "property" propertyName))
  else if isAt text "." && !isFraction then
    let point ← markHere "."
    made "member_expression" "object" (point :: (← field "property" propertyName))
  else if isAt text "[" then made "subscript_expression" "object" (← index read)
  else if isAt text "\x60" then
    made "call_expression" "function" [(← template read).withField "arguments"]
  else if calls && isAt text "(" then
    made "call_expression" "function" [(← argumentList read).withField "arguments"]
  else return none

/-- An operand with all properties, indexes and calls behind it. -/
def extended (read : Reader) (context : Context) (calls : Bool) (start : Cursor) (operand : Node) :
    Scan Node :=
  repeatWhile (fun operand => atOperator context (extend read calls start operand)) operand

/-- What begins with the word `new`: a construction with or without arguments, or `new.target`. -/
def newOperand (read : Reader) : Scan Node := do
  let start ← get
  let word ← keywordHere "new"
  if ← markFollows "." then
    set start
    metaProperty "new" "target"
  else
    let constructed ← field "constructor" (read .construction)
    let arguments ← optionalArguments read
    close "new_expression" start (word :: constructed ++ arguments)

/-- What the operator `new` is applied to. -/
def construction (read : Reader) : Scan Node := do
  let start ← get
  if (← peekName) = "new" then
    let node ← newOperand read
    if node.kind = "meta_property" then extended read {} false start node else return node
  else settle (← extended read {} false start (← primary read {}))

/-- The punctuation that is an operator before its operand. -/
def prefixOperators : List String :=
  ["!", "~", "-", "+"]

/-- The words that are operators before their operand. -/
def prefixWords : List String :=
  ["typeof", "void", "delete"]

/-- Whether an operand begins at a place that an operator could also stand at. Where the operator
`in` is not allowed, the word `of` is not an operand either. -/
def operandAt (context : Context) (text : List Glyph) : Bool :=
  match nameOf text with
  | "" =>
    match (text.take 2).map Glyph.char with
    | '!' :: c :: _ | '+' :: c :: _ | '-' :: c :: _ | '/' :: c :: _ => c ≠ '='
    | '.' :: c :: _ => isDecimal c
    | c :: _ => isDecimal c || "\"'([\x60\x7b~#@".toList.contains c
    | [] => false
  | "in" | "instanceof" => false
  | "of" => context.allowIn
  | _ => true

/-- Whether the word `await` begins here with an operand behind it. Without one it is a name. -/
def awaitAhead (context : Context) : Scan Bool :=
  lookAhead do
    if (← peekName) ≠ "await" then return false
    else
      let _ ← keywordHere "await"
      if ← endsExpression context then return false
      else
        let _ ← trivia true
        return operandAt context (← ahead)

/-- An operator with its single operand behind it. -/
def prefixed (read : Reader) (context : Context) (kind : String) (operator : Scan Node) :
    Scan Node :=
  build kind do
    let operator ← operator
    let operand ← field "argument" (do settle (← read (.operand context)))
    return operator.withField "operator" :: operand

/-- What begins with the word `yield`, with an operand if one follows. -/
def yieldOperand (read : Reader) (context : Context) : Scan Node :=
  build "yield_expression" do
    let word ← keywordHere "yield"
    if ← endsExpression context then return [word]
    else if ← markFollows "*" then
      return word :: (← mark "*") ++ (← within (expression read context))
    else
      match ← attempt (within (expression read context)) with
      | some nodes => return word :: nodes
      | none => return [word]

/-- An operand from an operator before it on, without the operators behind it. -/
def beforePostfix (read : Reader) (context : Context) : Scan Node := do
  let start ← get
  let text ← ahead
  let word ← peekName
  if isAt text "++" || isAt text "--" then
    prefixed read context "update_expression" (leaf (if isAt text "++" then "++" else "--") false 2)
  else
    match prefixOperators.find? (isAt text ·) with
    | some operator => prefixed read context "unary_expression" (markHere operator)
    | none =>
      if prefixWords.contains word then
        prefixed read context "unary_expression" (keywordHere word)
      else if word = "yield" then yieldOperand read context
      else if ← awaitAhead context then
        build "await_expression" do
          let word ← keywordHere "await"
          return word :: (← within (do settle (← read (.operand context))))
      else
        let operand ← if word = "new" then newOperand read else primary read context
        extended read context true start operand

/-- An operand with the operators before and behind it. -/
def operand (read : Reader) (context : Context) : Scan Node := do
  let start ← get
  let node ← beforePostfix read context
  repeatWhile (fun node => atOperator context fun comments => do
    let text ← ahead
    if isAt text "++" || isAt text "--" then
      let node ← settle node
      let operator ← leaf (if isAt text "++" then "++" else "--") false 2
      return some (← close "update_expression" start
        (node.withField "argument" :: comments ++ [operator.withField "operator"]))
    else return none) node

end EcmaEdition.Script
