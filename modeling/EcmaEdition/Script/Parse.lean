import EcmaEdition.Script.Statement

/-!
# Parsing a program

The scans for the constructs refer to one another through a reader. Here the reader is made from
them, for constructs that are nested up to a depth, which is chosen from the length of the source. A
source that cannot be read to its end with that depth makes one node that stands for everything that
was not understood.
-/

set_option autoImplicit false

namespace EcmaEdition.Script

open EcmaEdition.Text Scan

/-- Reads a construct in which others are nested up to a depth. -/
def reader : (depth : Nat) → Reader
  | 0, _ => failure
  | depth + 1, goal =>
    match goal with
    | .statement => statement (reader depth)
    | .block => block (reader depth)
    | .assignment context => assignment (reader depth) context
    | .operand context => operand (reader depth) context
    | .construction => construction (reader depth)
    | .markup => markup (reader depth)

/-- The depth up to which a source of a size is read: four constructs for each place in it, its end
included. -/
def depthLimit (size : Nat) : Nat :=
  4 * size + 4

/-- The line that names the interpreter of a program. -/
def interpreterLine : Scan (List Node) := do
  if isAt (← ahead) "#!" then
    return [← leaf "hash_bang_line" true (runLength (· ≠ '\n') (← ahead))]
  else return []

/-- A whole program. The line that names the interpreter may stand before its first statement,
behind white space and comments. -/
def program (read : Reader) : Scan Node := do
  let start ← get
  let comments ← trivia true
  let line ← interpreterLine
  let statements ← statementsUpTo read do
    lookAhead do
      let _ ← trivia true
      return (← ahead).isEmpty
  let trailing ← trivia true
  close "program" start (comments ++ line ++ statements ++ trailing)

/-- A node for a source that makes no sense. -/
def nonsense (bytes : ByteArray) : Node :=
  ⟨{ kind := "ERROR", text := some bytes }, []⟩

/-- The syntax tree of a program. -/
def parse (bytes : ByteArray) : Node :=
  match (program (reader (depthLimit bytes.size))).run bytes (Cursor.start bytes) with
  | some (tree, _) => tree
  | none => nonsense bytes

end EcmaEdition.Script
