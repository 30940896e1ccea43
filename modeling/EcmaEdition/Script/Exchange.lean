import EcmaEdition.Script.Declaration

/-!
# Imports and exports

What a program takes from other modules and what it offers to them.
-/

set_option autoImplicit false

namespace EcmaEdition.Script

open EcmaEdition.Text Scan

/-- The name of something exported: a free name, a string, or the word `default`. -/
def exchangeName : Scan Node := do
  match ← peek with
  | some '"' | some '\'' => string
  | _ =>
    if (← peekName) = "default" then keywordHere "default" else freeName "identifier"

/-- A name, perhaps with another one behind the word `as`. What is imported must end up under a free
name. -/
def specifier (importing : Bool) : Scan Node := do
  let start ← get
  let name ← exchangeName
  if (← nameFollows) = "as" then
    let word ← keyword "as"
    let second ← field "alias" (if importing then freeName "identifier" else exchangeName)
    close (if importing then "import_specifier" else "export_specifier") start
      (name.withField "name" :: word ++ second)
  else
    require (!importing || name.kind = "identifier")
    close (if importing then "import_specifier" else "export_specifier") start
      [name.withField "name"]

/-- Names between braces. -/
def specifiers (importing : Bool) : Scan Node := do
  let start ← get
  let list ← listing "\x7b" "\x7d" (specifier importing)
  require !list.holes
  close (if importing then "named_imports" else "export_clause") start list.nodes

/-- The module that something comes from, and the attributes of the import. The attributes stand on
the same line. -/
def source (read : Reader) : Scan (List Node) := do
  let source ← field "source" string
  if !(← semicolonImplied false) && (← nameFollows) = "with" then
    let attributes ← within <| build "import_attribute" do
      return (← keyword "with") ++ (← within (do settle (← object read)))
    return source ++ attributes
  else return source

/-- The word `from` and the module behind it. -/
def fromSource (read : Reader) : Scan (List Node) := do
  let word ← keyword "from"
  return word ++ (← source read)

/-- All that a module exports, under one name. -/
def namespaceImport : Scan Node :=
  build "namespace_import" do
    return (← mark "*") ++ (← keyword "as") ++ (← within (freeName "identifier"))

/-- What is imported besides a default: a namespace or names between braces. -/
def importedNames : Scan Node := do
  if isAt (← ahead) "*" then namespaceImport else specifiers true

/-- What is imported. -/
def importClause : Scan Node :=
  build "import_clause" do
    if isFreeName (← peekName) then
      let name ← freeName "identifier"
      if ← markFollows "," then
        let comma ← mark ","
        return name :: comma ++ (← within importedNames)
      else return [name]
    else return [← importedNames]

/-- An import. -/
def importStatement (read : Reader) : Scan Node :=
  build "import_statement" do
    let word ← keyword "import"
    let content ←
      if ← anyMarkFollows ["\"", "'"] then source read
      else
        let clause ← within importClause
        pure (clause ++ (← fromSource read))
    return word ++ content ++ (← statementEnd false)

/-- A declaration that can be exported: of a class, a function or variables. -/
def declared (read : Reader) : Scan Node := do
  match ← peekName with
  | "function" | "async" => function read true
  | "class" | "" => classNode read true
  | _ => declaration read

/-- What is exported by default: a function or a class with a name, or an expression. -/
def defaultExport (read : Reader) : Scan (List Node) := do
  let comments ← trivia true
  let word ← peekName
  let isDeclaration := word = "function" || word = "class" || isAt (← ahead) "@" ||
    (← asyncFunctionAhead)
  let declaration ←
    if isDeclaration then
      attempt (if word = "class" || word = "" then classNode read true else function read true)
    else pure none
  match declaration with
  | some node => return comments ++ [node.withField "declaration"]
  | none =>
    let value ← expression read { mayEnd := true }
    return comments ++ value.withField "value" :: (← statementEnd true)

/-- All that another module exports, perhaps under one name. -/
def exportAll (read : Reader) : Scan (List Node) := do
  let star ← mark "*"
  if (← nameFollows) = "as" then
    let word ← keyword "as"
    let name ← within exchangeName
    return star ++ word ++ name ++ (← fromSource read) ++ (← statementEnd false)
  else return star ++ (← fromSource read) ++ (← statementEnd false)

/-- Names between braces, perhaps those of another module. -/
def exportNames (read : Reader) : Scan (List Node) := do
  let clause ← within (specifiers false)
  let source ←
    if !(← semicolonImplied false) && (← nameFollows) = "from" then fromSource read else pure []
  return clause ++ source ++ (← statementEnd false)

/-- An export from the word `export` on. -/
def exportFrom (read : Reader) (start : Cursor) (decorators : List Node) : Scan Node := do
  let word ← keyword "export"
  let content ←
    if ← markFollows "*" then exportAll read
    else if ← markFollows "\x7b" then exportNames read
    else if (← nameFollows) = "default" then
      let word ← keyword "default"
      pure (word ++ (← defaultExport read))
    else field "declaration" (declared read)
  close "export_statement" start (decorators ++ word ++ content)

end EcmaEdition.Script
