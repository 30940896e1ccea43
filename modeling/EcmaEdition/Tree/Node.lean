import EcmaEdition.Text.Utf8

/-!
# Syntax trees

A concrete syntax tree: every node has a kind, and the pieces of punctuation are nodes as well,
though not named ones. A node knows where it begins, the bytes it covers, and under which field name
its parent refers to it.
-/

set_option autoImplicit false

namespace EcmaEdition

/-- What a node carries besides its children. -/
structure Label where
  /-- The grammar's name for this sort of node, or the punctuation itself. -/
  kind : String
  /-- Whether the node stands for a construct of the grammar rather than for punctuation. -/
  named : Bool := true
  /-- Whether the node was supposed by the parser and is not in the source. -/
  missing : Bool := false
  /-- The name under which the parent refers to the node. -/
  field : Option String := none
  /-- The line on which the node begins, counted from zero. -/
  row : Nat := 0
  /-- The number of bytes before the node on its line. -/
  column : Nat := 0
  /-- The bytes of the source that the node covers. -/
  text : Option ByteArray := none

/-- A syntax tree: the label of its root and the trees below it, in source order. -/
structure Node where
  label : Label
  children : List Node

namespace Node

/-- The kind of a node. -/
def kind (node : Node) : String :=
  node.label.kind

/-- Whether a node is named. -/
def named (node : Node) : Bool :=
  node.label.named

/-- Whether a node is missing from the source. -/
def missing (node : Node) : Bool :=
  node.label.missing

/-- The children that are named. -/
def namedChildren (node : Node) : List Node :=
  node.children.filter named

/-- The first child that stands under a field name. -/
def child? (node : Node) (field : String) : Option Node :=
  node.children.find? (·.label.field == some field)

/-- Whether a node has a direct child of a kind. -/
def hasChild (node : Node) (kind : String) : Bool :=
  node.children.any (·.kind == kind)

/-- The characters that a node covers; a node without text covers none. -/
def chars (node : Node) : List Char :=
  match node.label.text with
  | some bytes => Text.decode bytes.toList
  | none => []

/-- The text that a node covers. -/
def string (node : Node) : String :=
  String.ofList node.chars

/-- The characters of a node that may be absent. -/
def chars? : Option Node → List Char
  | some node => node.chars
  | none => []

/-- Whether a node's kind opens with the given characters. -/
def kindOpensWith (node : Node) (start : String) : Bool :=
  start.toList.isPrefixOf node.kind.toList

theorem hasChild_iff (node : Node) (kind : String) :
    node.hasChild kind = true ↔ ∃ child ∈ node.children, child.kind = kind := by
  simp [hasChild]

theorem kindOpensWith_iff (node : Node) (start : String) :
    node.kindOpensWith start = true ↔ ∃ rest, node.kind = start ++ rest := by
  unfold kindOpensWith
  rw [List.isPrefixOf_iff_prefix]
  constructor
  · rintro ⟨rest, split⟩
    refine ⟨String.ofList rest, ?_⟩
    apply String.ext
    rw [String.toList_append, ← split]
    congr 1
    exact String.toList_ofList.symm
  · rintro ⟨rest, split⟩
    rw [split, String.toList_append]
    exact List.prefix_append _ _

/-- A node under another field name. -/
def withField (node : Node) (field : String) : Node :=
  ⟨{ node.label with field := some field }, node.children⟩

mutual

/-- The number of nodes in a tree. -/
def size : Node → Nat
  | ⟨_, children⟩ => 1 + sizes children

/-- The number of nodes in some trees. -/
def sizes : List Node → Nat
  | [] => 0
  | node :: rest => node.size + sizes rest

end

theorem size_eq (node : Node) : node.size = 1 + sizes node.children := by
  cases node; simp [size]

theorem sizes_append (front back : List Node) :
    sizes (front ++ back) = sizes front + sizes back := by
  induction front with
  | nil => simp [sizes]
  | cons node rest ih => simp [sizes, ih]; omega

end Node

end EcmaEdition
