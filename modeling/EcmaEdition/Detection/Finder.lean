import EcmaEdition.Detection.Rule

/-!
# Finding features

A finder is the set of features found so far. Visiting a tree applies the rules at every node, root
first and left to right, and each node is visited once. Nesting in source text is unbounded, so the
visit keeps a list of the trees that are still to be visited, each with the scope it stands in.
-/

set_option autoImplicit false

namespace EcmaEdition.Finder

open EcmaEdition.Rule

/-- A tree to visit, and the scope in which it stands. -/
abbrev Task := Scope × Node

/-- The tasks that the children of a node make. -/
def subtasks (scope : Scope) (node : Node) : List Task :=
  node.children.map (scope.below node, ·)

/-- The number of nodes in the trees of some tasks. -/
def load (tasks : List Task) : Nat :=
  Node.sizes (tasks.map Prod.snd)

theorem load_subtasks (scope : Scope) (node : Node) (rest : List Task) :
    load (subtasks scope node ++ rest) < load ((scope, node) :: rest) := by
  simp [load, subtasks, Node.sizes, Node.sizes_append, Node.size_eq, Function.comp_def]

/-- The features found once all tasks are done. A node's own features are added before its children
take its place in the list. -/
def run (found : FeatureSet) : List Task → FeatureSet
  | [] => found
  | (scope, node) :: rest => run (found ∪ features scope node) (subtasks scope node ++ rest)
termination_by tasks => load tasks
decreasing_by exact load_subtasks scope node rest

/-- The features found so far together with those of a tree in a scope. -/
def visit (found : FeatureSet) (scope : Scope) (node : Node) : FeatureSet :=
  run found [(scope, node)]

/-- The features of a tree. -/
def find (node : Node) : FeatureSet :=
  visit ∅ .outermost node

/-- Something that a finder is asked to look at. -/
inductive Step where
  /-- A tree in a scope. -/
  | tree (scope : Scope) (node : Node)
  /-- The pattern and the flags of a regular expression. -/
  | regex (pattern flags : List Char)
  /-- The modifiers of a function. -/
  | modifiers (node : Node)
  /-- The arguments of a regular expression's constructor. -/
  | regexpConstructor (arguments : List Node)
  /-- The arguments of an error constructor whose options stand at the given place. -/
  | errorCause (index : Nat) (arguments : List Node)

/-- The features found so far together with those of one step. -/
def take (found : FeatureSet) : Step → FeatureSet
  | .tree scope node => visit found scope node
  | .regex pattern flags => found ∪ Pattern.features pattern flags
  | .modifiers node => found ∪ Rule.modifiers node
  | .regexpConstructor arguments => found ∪ Rule.regexpConstructor arguments
  | .errorCause index arguments => found ∪ Rule.errorCause index arguments

end EcmaEdition.Finder
