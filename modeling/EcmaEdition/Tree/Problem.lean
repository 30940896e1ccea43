import EcmaEdition.Text.Character
import EcmaEdition.Text.Quoted
import EcmaEdition.Tree.Node

/-!
# Problems in a syntax tree

A parser never gives up: what it cannot read becomes a node of the kind `ERROR`, and what it had to
suppose becomes a missing node. Markup, whose kinds open with `jsx_`, parses well but is no part of
the language, so it is a problem too. Only the outermost problems are reported, in source order.
-/

set_option autoImplicit false

namespace EcmaEdition

/-- A problem as it is shown: what is wrong, and where, as far as that is known. -/
structure Diagnostic where
  description : String
  line : Option Int
  column : Option Int
  deriving DecidableEq, Repr

namespace Problem

open EcmaEdition.Text

/-- What is wrong at a node. -/
inductive Cause where
  /-- Something of the given kind should stand here. -/
  | missing (kind : String)
  /-- The node is markup. -/
  | markup
  /-- The parser made no sense of what begins with the given characters. -/
  | unexpected (near : List Char)
  deriving DecidableEq, Repr

/-- Whether a node is markup. -/
def isMarkup (node : Node) : Bool :=
  node.kindOpensWith "jsx_"

/-- Whether a node is a problem by itself. -/
def isProblem (node : Node) : Bool :=
  node.kind = "ERROR" || node.missing || isMarkup node

/-- The problems among some trees that lie below no other problem, in source order. -/
def outermostOf : List Node → List Node
  | [] => []
  | node :: rest =>
    if isProblem node then node :: outermostOf rest
    else outermostOf (node.children ++ rest)
termination_by nodes => Node.sizes nodes
decreasing_by
  · simp only [Node.sizes, Node.size_eq]; omega
  · simp only [Node.sizes, Node.sizes_append, Node.size_eq]; omega

/-- The outermost problems of a tree in source order. -/
def outermost (tree : Node) : List Node :=
  outermostOf [tree]

/-- The number of characters that an excerpt shows. -/
def excerptLength : Nat := 40

/-- The beginning of a text's first line, without the blanks around it. -/
def excerpt (text : List Char) : List Char :=
  (strip (firstLine text)).take excerptLength

/-- What is wrong at a problem node. -/
def cause (node : Node) : Cause :=
  if node.missing then .missing node.kind
  else if isMarkup node then .markup
  else .unexpected (excerpt node.chars)

/-- The wording of a cause. -/
def Cause.description : Cause → String
  | .missing kind => "Missing " ++ quote kind ++ "."
  | .markup => "JSX syntax is not supported."
  | .unexpected [] => "Unexpected token."
  | .unexpected near => "Unexpected token near " ++ String.ofList (quoted near) ++ "."

/-- The diagnostic of a problem node. Lines count from one and columns from zero. -/
def diagnostic (node : Node) : Diagnostic where
  description := (cause node).description
  line := some (node.label.row + 1)
  column := some node.label.column

/-- The diagnostics of a tree. -/
def diagnostics (tree : Node) : List Diagnostic :=
  (outermost tree).map diagnostic

end Problem

end EcmaEdition
