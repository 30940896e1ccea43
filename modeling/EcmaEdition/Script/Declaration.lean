import EcmaEdition.Script.Expression

/-!
# Declarations of variables

What `var`, `let`, `const` and `using` declare: names or patterns, perhaps with initial values.
-/

set_option autoImplicit false

namespace EcmaEdition.Script

open EcmaEdition.Text Scan

/-- What a variable is declared by: a free name or a pattern. -/
def binding (read : Reader) : Scan Node := do
  match ← peek with
  | some '[' => ofOption (asTarget? (← array read))
  | some '\x7b' => ofOption (asTarget? (← object read))
  | _ => freeName "identifier"

/-- An initial value if an equals sign follows. -/
def initializer (read : Reader) (context : Context) : Scan (Option (List Node)) :=
  atOperator context fun comments => do
    if operatorAt? (← ahead) = some "=" then
      let sign ← markHere "="
      return some (comments ++ sign :: (← field "value" (expression read context)))
    else return none

/-- One declared variable. -/
def declarator (read : Reader) (context : Context) : Scan Node := do
  let start ← get
  let name ← binding read
  let value ← initializer read context
  close "variable_declarator" start (name.withField "name" :: value.getD [])

/-- Whether a node has an initial value. -/
def hasValue (node : Node) : Bool :=
  (node.child? "value").isSome

/-- Declared variables with commas between them. -/
def declarators (read : Reader) (context : Context) : Scan (List Node) := do
  let first ← within (declarator read context)
  let rest ← collect <| atOperator context fun comments => do
    if isAt (← ahead) "," then
      let comma ← markHere ","
      return some (comments ++ comma :: (← within (declarator read context)))
    else return none
  return first ++ rest

/-- The kind of declaration that a word begins, and the words that belong to it. -/
def declarationWords? : String → Option (String × List String)
  | "var" => some ("variable_declaration", ["var"])
  | "let" => some ("lexical_declaration", ["let"])
  | "const" => some ("lexical_declaration", ["const"])
  | "using" => some ("using_declaration", ["using"])
  | "await" => some ("using_declaration", ["await", "using"])
  | _ => none

/-- Some words one after the other. -/
def keywords : List String → Scan (List Node)
  | [] => return []
  | word :: rest => do
    let nodes ← keyword word
    return nodes ++ (← keywords rest)

/-- A declaration of variables up to its semicolon. -/
def declaration (read : Reader) : Scan Node := do
  let start ← get
  let (kind, words) ← ofOption (declarationWords? (← peekName))
  let words ← keywords words
  let nodes ← declarators read { mayEnd := true }
  let stop ← statementEnd (nodes.getLast?.any hasValue)
  close kind start (words ++ nodes ++ stop)

/-- Whether a word that may also be a name begins a declaration: on the same line a name follows or,
after `let`, a pattern. -/
def declarationAhead : Scan Bool :=
  lookAhead do
    match ← peekName with
    | "var" | "const" => return true
    | "let" =>
      let _ ← keywordHere "let"
      if ← semicolonImplied true then return false
      else return isFreeName (← nameFollows) || (← anyMarkFollows ["[", "\x7b"])
    | "using" =>
      let _ ← keywordHere "using"
      return !(← semicolonImplied true) && isFreeName (← nameFollows)
    | "await" =>
      let _ ← keywordHere "await"
      if (← semicolonImplied true) || (← nameFollows) ≠ "using" then return false
      else
        let _ ← keyword "using"
        return !(← semicolonImplied true) && isFreeName (← nameFollows)
    | _ => return false

end EcmaEdition.Script
