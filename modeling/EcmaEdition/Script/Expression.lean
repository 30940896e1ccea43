import EcmaEdition.Script.Operand
import EcmaEdition.Script.Operator

/-!
# Expressions

Binary operations, conditionals and assignments. The operands of binary operators are read one after
the other, and each operation is put together as soon as the next operator binds less tightly.
-/

set_option autoImplicit false

namespace EcmaEdition.Script

open EcmaEdition.Text Scan

/-- A binary operation whose right operand is still to come: where it begins, its left operand and
its operator, and how tightly that binds. -/
structure Pending where
  start : Cursor
  nodes : List Node
  level : Nat

/-- An operand that has been read, and where it begins and ends. -/
structure Settled where
  start : Cursor
  stop : Cursor
  node : Node

/-- A pending operation with its right operand. -/
def Pending.complete (pending : Pending) (right : Settled) : Scan Settled := do
  let node ← span "binary_expression" pending.start right.stop
    (pending.nodes ++ [right.node.withField "right"])
  return { start := pending.start, stop := right.stop, node }

/-- Puts together the pending operations that bind at least as tightly as the next operator. -/
def reduce (level : Nat) : List Pending → Settled → Scan (List Pending × Settled)
  | [], right => return ([], right)
  | pending :: rest, right => do
    if bindsTighter level pending.level then return (pending :: rest, right)
    else reduce level rest (← pending.complete right)

/-- Puts together all pending operations. -/
def reduceAll : List Pending → Settled → Scan Node
  | [], right => return right.node
  | pending :: rest, right => do reduceAll rest (← pending.complete right)

/-- An operation that an operator ahead begins, given the comments before the operator. -/
def pendingAt (left : Settled) (comments : List Node) (operator : String) (level : Nat) :
    Scan Pending := do
  let sign ← leaf operator false operator.length
  return {
    start := left.start
    nodes := left.node.withField "left" :: comments ++ [sign.withField "operator"]
    level }

/-- An operand behind an operator, with the comments before it. Private names, which stand to the
left of `in` only, add an operation of their own, which no context rules out. -/
def rightOperand (read : Reader) (context : Context) (stack : List Pending) :
    Scan (List Pending × Settled) := do
  let comments ← trivia true
  let stack := match stack with
    | [] => []
    | pending :: rest => { pending with nodes := pending.nodes ++ comments } :: rest
  let start ← get
  if isAt (← ahead) "#" then
    let name ← privateName
    let left : Settled := { start, stop := ← get, node := name }
    let comments ← trivia true
    require ((← peekName) = "in")
    let pending ← pendingAt left comments "in" 10
    let comments ← trivia true
    let start ← get
    let node ← settle (← read (.operand context))
    let pending := { pending with nodes := pending.nodes ++ comments }
    return (pending :: stack, { start, stop := ← get, node })
  else
    let node ← read (.operand context)
    return (stack, { start, stop := ← get, node })

/-- Operands with binary operators between them. The result may still turn out to be a target if it
is a single operand; then it comes with the fact. -/
def operation (read : Reader) (context : Context) : Scan (Node × Bool) := do
  let (stack, first) ← rightOperand read context []
  let (stack, last) ← repeatWhile (fun (stack, right) => atOperator context fun comments => do
    match binaryOperatorAt? context.allowIn (← ahead) with
    | some (operator, level) =>
      let _ ← settle right.node
      let (stack, left) ← reduce level stack right
      let pending ← pendingAt left comments operator level
      let (stack, right) ← rightOperand read context (pending :: stack)
      let _ ← settle right.node
      return some (stack, right)
    | none => return none) (stack, first)
  return (← reduceAll stack last, stack.isEmpty)

/-- The rest of a conditional behind its condition. -/
def conditional (read : Reader) (context : Context) (start : Cursor) (condition : Node)
    (comments : List Node) : Scan Node := do
  let condition ← settle condition
  let question ← markHere "?"
  let consequence ← field "consequence" (expression read {})
  let colon ← mark ":"
  let alternative ← field "alternative" (expression read context)
  close "ternary_expression" start
    (condition.withField "condition" :: comments ++ question :: consequence ++ colon ++ alternative)

/-- The rest of an assignment behind what is assigned to. -/
def assigned (read : Reader) (context : Context) (kind : String) (start : Cursor) (left : Node)
    (comments : List Node) (operator : String) : Scan Node := do
  let sign ← markHere operator
  let right ← field "right" (expression read context)
  close kind start
    (left.withField "left" :: comments ++ sign.withField "operator" :: right)

/-- An expression without commas outside of brackets: a binary operation, a conditional or an
assignment. A literal alone may still turn out to be a target. -/
def assignment (read : Reader) (context : Context) : Scan Node := do
  let start ← get
  let (node, isOperand) ← operation read context
  let whole ← atOperator context fun comments => do
    let text ← ahead
    if conditionalAt text then return some (← conditional read context start node comments)
    else
      match operatorAt? text with
      | some operator =>
        if isOperand && operator = "=" then
          let left ← ofOption (asAssignee? node)
          return some
            (← assigned read context "assignment_expression" start left comments operator)
        else if isOperand && augmentingMarks.contains operator then
          require (isReference node)
          return some
            (← assigned read context "augmented_assignment_expression" start node comments operator)
        else return none
      | none => return none
  return whole.getD node

end EcmaEdition.Script
