import EcmaEdition.Tree.Node
import Mathlib.Data.List.Forall2

/-!
# Edits of a tree

An edit says what may become of the children of a node. It is done to a tree at any number of nodes
and at every depth at once: the children are edited first, each on its own, and then their list is.
All nodes keep their kind, their text and the name that their parent has for them, but they may
begin at other places of the source.

A node shows little of its children to someone who does not look at all of them. The first child
under a field name can be asked for, and whether there is a child of some kind, and the named
children can be gone through with the comments left out. An edit that leaves all three as they are,
except at nodes that are mere sequences of their children, and that adds nothing but comments, is
harmless. What can be asked of a node has then the same answers before and after, up to the edits
below.
-/

set_option autoImplicit false

namespace EcmaEdition

/-- Labels of nodes that read alike. They may differ in where the nodes begin and in whether they
are missing from the source, which no rule asks for. -/
structure Label.Alike (a b : Label) : Prop where
  kind : a.kind = b.kind
  named : a.named = b.named
  field : a.field = b.field
  text : a.text = b.text

/-- A label is like itself. -/
theorem Label.Alike.refl (label : Label) : label.Alike label :=
  ⟨rfl, rfl, rfl, rfl⟩

namespace Node

/-- What may become of the children of a node of some kind. -/
abbrev Edit := String → List Node → List Node → Prop

/-- A tree that comes from another by an edit of its children and of everything below. -/
inductive Edited (edit : Edit) : Node → Node → Prop where
  | node {label relabelled : Label} {children within edited : List Node}
      (alike : label.Alike relabelled) (below : List.Forall₂ (Edited edit) children within)
      (step : edit label.kind within edited) :
      Edited edit ⟨label, children⟩ ⟨relabelled, edited⟩

/-- A comment between the children of a node: a named leaf that no field refers to. -/
structure IsComment (node : Node) : Prop where
  kind : node.kind = "comment"
  named : node.named = true
  field : node.label.field = none
  leaf : node.children = []

/-- Whether a node is named and no comment. -/
def isPlain (node : Node) : Bool :=
  node.named && node.kind != "comment"

/-- The named nodes of a list, comments left out. -/
def plain (nodes : List Node) : List Node :=
  nodes.filter isPlain

/-- Lists of children that answer alike when they are asked for a field or for a kind, or gone
through without comments. -/
structure SameView (a b : List Node) : Prop where
  field : ∀ field : String,
    a.find? (·.label.field == some field) = b.find? (·.label.field == some field)
  kind : ∀ kind : String, kind ≠ "comment" → a.any (·.kind == kind) = b.any (·.kind == kind)
  plain : plain a = plain b

/-- A row of nodes has the view that it has. -/
theorem SameView.refl (nodes : List Node) : SameView nodes nodes :=
  ⟨fun _ => rfl, fun _ _ => rfl, rfl⟩

/-- The kinds of nodes that are sequences of statements or members. What such a node is made of
matters, but not in which order. -/
def sequenceKinds : List String :=
  ["program", "statement_block", "class_body"]

/-- An edit that leaves the view of the children as it is, sequences apart, that takes no child
away, and that adds comments alone. -/
structure Edit.Harmless (edit : Edit) : Prop where
  view : ∀ {kind before after}, edit kind before after → kind ∉ sequenceKinds →
    SameView before after
  kept : ∀ {kind before after}, edit kind before after → ∀ node ∈ before, node ∈ after
  added : ∀ {kind before after}, edit kind before after → ∀ node ∈ after,
    node ∈ before ∨ node.IsComment

/-! ## Lists of related nodes -/

section Lists

variable {α β γ : Type} {related : α → β → Prop} {xs : List α} {ys : List β}

/-- What is the same at related members is the same along related lists. -/
theorem map_eq_of_forall₂ {f : α → γ} {g : β → γ} (same : ∀ x y, related x y → f x = g y)
    (lists : List.Forall₂ related xs ys) : xs.map f = ys.map g := by
  induction lists with
  | nil => rfl
  | cons head _ ih => rw [List.map_cons, List.map_cons, same _ _ head, ih]

/-- Lists whose members correspond agree on whether a member passes a test, if members that
correspond do. -/
theorem any_eq_of_forall₂ {p : α → Bool} {q : β → Bool} (same : ∀ x y, related x y → p x = q y)
    (lists : List.Forall₂ related xs ys) : xs.any p = ys.any q := by
  have mapped := congrArg (List.any · id) (map_eq_of_forall₂ same lists)
  simpa only [List.any_map, Function.id_comp] using mapped

/-- Of related lists the first members that pass a test are related, if related members pass it
together. -/
theorem find?_of_forall₂ {p : α → Bool} {q : β → Bool} (same : ∀ x y, related x y → p x = q y)
    (lists : List.Forall₂ related xs ys) :
    (xs.find? p = none ∧ ys.find? q = none) ∨
      ∃ x y, xs.find? p = some x ∧ ys.find? q = some y ∧ related x y := by
  induction lists with
  | nil => exact Or.inl ⟨rfl, rfl⟩
  | @cons x y _ _ head _ ih =>
    rw [List.find?_cons, List.find?_cons, same x y head]
    cases q y with
    | true => exact Or.inr ⟨x, y, rfl, rfl, head⟩
    | false => exact ih

/-- Related lists have related members at each place. -/
theorem getElem?_of_forall₂ (lists : List.Forall₂ related xs ys) (place : Nat) :
    (xs[place]? = none ∧ ys[place]? = none) ∨
      ∃ x y, xs[place]? = some x ∧ ys[place]? = some y ∧ related x y := by
  induction lists generalizing place with
  | nil => exact Or.inl ⟨rfl, rfl⟩
  | @cons x y _ _ head _ ih =>
    cases place with
    | zero => exact Or.inr ⟨x, y, rfl, rfl, head⟩
    | succ place => simpa using ih place

end Lists

/-! ## What can be asked of an edited node -/

variable {edit : Edit} {a b : Node}

namespace Edited

/-- An edit keeps all of the label that a rule looks at. -/
theorem alike (edited : Edited edit a b) : a.label.Alike b.label := by
  cases edited with
  | node alike _ _ => exact alike

/-- The children of an edited node, and the step between them. -/
theorem exists_within (edited : Edited edit a b) :
    ∃ within, List.Forall₂ (Edited edit) a.children within ∧ edit a.kind within b.children := by
  cases edited with
  | node _ below step => exact ⟨_, below, step⟩

/-- An edit keeps the kind of a node. -/
theorem kind_eq (edited : Edited edit a b) : a.kind = b.kind :=
  edited.alike.kind

/-- A node is no sequence if its kind afterwards is known to be another. -/
theorem kind_not_mem (edited : Edited edit a b) {kind : String} (after : b.kind = kind)
    (other : kind ∉ sequenceKinds) : a.kind ∉ sequenceKinds := by
  rwa [edited.kind_eq, after]

/-- An edit keeps whether a node is named. -/
theorem named_eq (edited : Edited edit a b) : a.named = b.named :=
  edited.alike.named

/-- An edit keeps the characters of a node. -/
theorem chars_eq (edited : Edited edit a b) : a.chars = b.chars := by
  unfold chars
  rw [edited.alike.text]

/-- An edit keeps the text of a node. -/
theorem string_eq (edited : Edited edit a b) : a.string = b.string := by
  unfold string
  rw [edited.chars_eq]

/-- An edit keeps what the kind of a node begins with. -/
theorem kindOpensWith_eq (edited : Edited edit a b) (start : String) :
    a.kindOpensWith start = b.kindOpensWith start := by
  unfold kindOpensWith
  rw [edited.kind_eq]

/-- A field stays empty, or what stands under it is edited. -/
theorem child?_cases (harmless : edit.Harmless) (edited : Edited edit a b)
    (looked : a.kind ∉ sequenceKinds) (field : String) :
    (a.child? field = none ∧ b.child? field = none) ∨
      ∃ x y, a.child? field = some x ∧ b.child? field = some y ∧ Edited edit x y := by
  obtain ⟨within, below, step⟩ := edited.exists_within
  have same : ∀ x y : Node, Edited edit x y →
      (x.label.field == some field) = (y.label.field == some field) := by
    intro x y related
    rw [related.alike.field]
  unfold child?
  rw [← (harmless.view step looked).field field]
  exact find?_of_forall₂ same below

/-- A harmless edit keeps which kinds of children a node has, comments apart, unless the node is a
sequence. -/
theorem hasChild_eq (harmless : edit.Harmless) (edited : Edited edit a b)
    (looked : a.kind ∉ sequenceKinds) {kind : String} (token : kind ≠ "comment") :
    a.hasChild kind = b.hasChild kind := by
  obtain ⟨within, below, step⟩ := edited.exists_within
  have same : ∀ x y : Node, Edited edit x y → (x.kind == kind) = (y.kind == kind) := by
    intro x y related
    rw [related.kind_eq]
  unfold hasChild
  rw [any_eq_of_forall₂ same below, (harmless.view step looked).kind kind token]

/-- Without comments, the named children of an edited node are the edited ones. -/
theorem plain_children (harmless : edit.Harmless) (edited : Edited edit a b)
    (looked : a.kind ∉ sequenceKinds) :
    List.Forall₂ (Edited edit) (plain a.children) (plain b.children) := by
  obtain ⟨within, below, step⟩ := edited.exists_within
  rw [← (harmless.view step looked).plain]
  refine List.rel_filter ?_ below
  intro x y related
  simp only [isPlain, related.named_eq, related.kind_eq]

end Edited

end Node

end EcmaEdition
