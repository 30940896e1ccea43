import EcmaEdition.Script.Function

/-!
# Members of objects and classes

Members have names of many sorts, and words before the name that modify it. Such a word may be the
name itself: in an object that shows in what follows it, in a class also in a line break behind it.
-/

set_option autoImplicit false

namespace EcmaEdition.Script

open EcmaEdition.Text Scan

/-- The name of a member. -/
def memberName (read : Reader) : Scan Node := do
  match ← peek with
  | some '#' => privateName
  | some '"' | some '\'' => string
  | some '[' =>
    build "computed_property_name" do
      return (← markHere "[") :: (← within (expression read {})) ++ (← mark "]")
  | some c =>
    if isDecimal c || c = '.' then number else anyName "property_identifier"
  | none => failure

/-- What decides whether a word before a member's name would be the name itself. -/
abbrev NameTest := Scan Bool

/-- Whether one of some pieces of punctuation follows. -/
def anyMarkFollows (texts : List String) : Scan Bool :=
  lookAhead do
    let _ ← trivia true
    let text ← ahead
    return texts.any (isAt text)

/-- In an object, a word is the name if a parameter list or a value follows it, or the member
ends. -/
def endsNameInObject : NameTest :=
  anyMarkFollows ["(", ":", ",", "\x7d", "="]

/-- In a class, a word is the name if a parameter list or a value follows it, or the member ends,
perhaps by a semicolon that is not written. -/
def endsNameInClass : NameTest := do
  if ← semicolonImplied false then return true
  else anyMarkFollows ["(", "=", ";", "\x7d"]

/-- Reads a modifier if the word follows and is not the name itself. -/
def modifier (isName : NameTest) (word : String) : Scan (List Node) := do
  if (← nameFollows) = word then
    let modifier ← attempt do
      let nodes ← keyword word
      require !(← isName)
      return nodes
    return modifier.getD []
  else return []

/-- The length of `static get` with white space up to a line break behind it. -/
def staticGetterLength (text : List Glyph) : Nat :=
  if !isAt text "static" then 0
  else
    let gap := runLength isBreakingSpace (text.drop 6)
    let rest := text.drop (6 + gap)
    if gap = 0 || !isAt rest "get" then 0
    else
      let space := (rest.drop 3).take (runLength isBreakingSpace (rest.drop 3))
      let upToBreak := (space.reverse.dropWhile (·.char ≠ '\n')).length
      if upToBreak = 0 then 0 else 6 + gap + 3 + upToBreak

/-- The modifiers of a member: the nodes, and whether they make it a method. The words `static get`
do so if a line break follows them. -/
def memberModifiers (isName : NameTest) : Scan (List Node × Bool) := do
  let comments ← trivia true
  let length := staticGetterLength (← ahead)
  let front ←
    if length > 0 then pure [← leaf "static get" false length] else modifier isName "static"
  let async ← modifier isName "async"
  let getter ← modifier isName "get"
  let setter ← if getter.isEmpty then modifier isName "set" else pure []
  let star ← if getter.isEmpty && setter.isEmpty then optionalMark "*" else pure []
  let words := async ++ getter ++ setter ++ star
  return (comments ++ front ++ words, length > 0 || !words.isEmpty)

/-- A list of arguments if it follows. -/
def optionalArguments (read : Reader) : Scan (List Node) := do
  if ← markFollows "(" then field "arguments" (argumentList read) else return []

/-- A decorator: a name with properties and arguments, or an expression in parentheses. -/
def decorator (read : Reader) : Scan Node :=
  build "decorator" do
    let sign ← markHere "@"
    let body ← within do
      if isAt (← ahead) "(" then parenthesized read
      else
        let start ← get
        let name ← dotted start (← freeName "identifier")
        let arguments ← optionalArguments read
        if arguments.isEmpty then return name
        else close "call_expression" start (name.withField "function" :: arguments)
    return sign :: body

/-- The decorators that follow. -/
def decorators (read : Reader) : Scan (List Node) :=
  collect do
    if ← markFollows "@" then return some (← within (decorator read)) else return none

/-- The rest of a method from its parameter list on. -/
def method (read : Reader) (start : Cursor) (front : List Node) (name : Node) : Scan Node := do
  close "method_definition" start (front ++ name.withField "name" :: (← signature read))

/-- A member of an object that is no method. Without a value only a free name may stand. -/
def property (read : Reader) (start : Cursor) (name : Node) (isFree : Bool) : Scan Node := do
  if ← markFollows ":" then
    let colon ← mark ":"
    let value ← field "value" (read (.assignment {}))
    close "pair" start (name.withField "key" :: colon ++ value)
  else
    require isFree
    let named (kind : String) : Node := ⟨{ name.label with kind }, []⟩
    if ← markFollows "=" then
      let sign ← mark "="
      let value ← field "right" (expression read {})
      let left := (named "shorthand_property_identifier_pattern").withField "left"
      close "object_assignment_pattern" start (left :: sign ++ value)
    else return named "shorthand_property_identifier"

/-- A member of an object. -/
def objectMember (read : Reader) : Scan Node := do
  if isAt (← ahead) "..." then spread read
  else
    let start ← get
    let decorators ← decorators read
    let (modifiers, forced) ← memberModifiers endsNameInObject
    let front := decorators ++ modifiers ++ (← trivia true)
    let isFree := isFreeName (← peekName)
    let name ← memberName read
    if forced || (← markFollows "(") then method read start front name
    else
      require front.isEmpty
      property read start name isFree

/-- An object, which may still turn out to be a target. -/
def object (read : Reader) : Scan Node := do
  let start ← get
  let list ← listing "\x7b" "\x7d" (objectMember read)
  close "object" start list.nodes

/-- A field of a class with the semicolon that ends it, written or implied. -/
def classField (read : Reader) (start : Cursor) (front : List Node) (name : Node) :
    Scan (List Node) := do
  let context : Context := { mayEnd := true }
  let value ← atOperator context fun comments => do
    if isAt (← ahead) "=" then
      let sign ← markHere "="
      return some (comments ++ sign :: (← field "value" (expression read context)))
    else return none
  let node ← close "field_definition" start
    (front ++ name.withField "property" :: value.getD [])
  return node :: (← statementEnd value.isSome)

/-- Whether a static block begins here. -/
def staticBlockAhead : Scan Bool :=
  lookAhead do
    if (← peekName) = "static" then
      let _ ← keywordHere "static"
      markFollows "\x7b"
    else return false

/-- A member of a class: a static block, a method, or a field with the semicolon that ends it. -/
def classMember (read : Reader) : Scan (List Node) := do
  if ← staticBlockAhead then
    within <| build "class_static_block" do
      return (← keyword "static") ++ (← field "body" (read .block))
  else
    let start ← get
    let decorators ← decorators read
    let (modifiers, forced) ← memberModifiers endsNameInClass
    let front := decorators ++ modifiers ++ (← trivia true)
    let name ← memberName read
    if forced || (← markFollows "(") then return [← method read start front name]
    else classField read start front name

/-- The body of a class. -/
def classBody (read : Reader) : Scan Node :=
  build "class_body" do
    let opening ← markHere "\x7b"
    let members ← collect do
      if ← markFollows "\x7d" then return none
      else
        let comments ← trivia true
        let member ← if isAt (← ahead) ";" then mark ";" else classMember read
        return some (comments ++ member)
    return opening :: members ++ (← mark "\x7d")

/-- What a class extends. -/
def heritage (read : Reader) : Scan Node :=
  build "class_heritage" do
    return (← keyword "extends") ++ (← within (expression read {}))

/-- A class from its decorators on. A declared class has a name. -/
def classFrom (read : Reader) (declared : Bool) (start : Cursor) (decorators : List Node) :
    Scan Node := do
  let word ← keyword "class"
  let name ← optionalName
  require (!declared || !name.isEmpty)
  let heritage ← if (← nameFollows) = "extends" then within (heritage read) else pure []
  let body ← field "body" (classBody read)
  close (if declared then "class_declaration" else "class") start
    (decorators ++ word ++ name ++ heritage ++ body)

/-- A class with its decorators. -/
def classNode (read : Reader) (declared : Bool) : Scan Node := do
  let start ← get
  classFrom read declared start (← decorators read)

end EcmaEdition.Script
