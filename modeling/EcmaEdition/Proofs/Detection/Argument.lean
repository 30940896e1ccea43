import EcmaEdition.Detection.Rule
import EcmaEdition.Proofs.Tree.Edit

/-!
# Arguments

The arguments of a call or of a construction are the named nodes of its list that are no comments.
So the argument at a place is known by how many such nodes stand before it, and it may be asked
whether it is an object with some key.
-/

set_option autoImplicit false

namespace EcmaEdition.Rule

open EcmaEdition.Literal

/-- An argument of a call or of a construction, with as many arguments before it as the index
says. -/
def HasArgument (node : Node) (index : Nat) (argument : Node) : Prop :=
  ∃ list before after, node.child? "arguments" = some list ∧ list.kind = "arguments" ∧
    list.children = before ++ argument :: after ∧ argument.isPlain = true ∧
      before.countP Node.isPlain = index

/-- An object literal with a key: a named member is a pair whose key spells it, or is its
shorthand. -/
def HasKey (node : Node) (key : String) : Prop :=
  node.kind = "object" ∧ ∃ member ∈ node.children, member.named = true ∧
    (member.kind = "pair" ∧
        (∃ name, member.child? "key" = some name ∧ keyName? name = some key.toList) ∨
      member.kind = "shorthand_property_identifier" ∧ member.chars = key.toList)

/-- An argument that is an object with the given key. -/
def HasOption (node : Node) (index : Nat) (key : String) : Prop :=
  ∃ options, HasArgument node index options ∧ HasKey options key

/-- A member has a key if it is a pair with that name or the shorthand of it. -/
theorem memberHasKey_iff (member : Node) (key : List Char) :
    memberHasKey key member = true ↔
      member.kind = "pair" ∧
          (∃ name, member.child? "key" = some name ∧ keyName? name = some key) ∨
        member.kind = "shorthand_property_identifier" ∧ member.chars = key := by
  unfold memberHasKey
  by_cases pair : member.kind = "pair"
  · cases member.child? "key" <;> simp [pair]
  · simp [pair]

/-- The look-up of a key finds what `HasKey` describes. -/
theorem objectHasKey_iff (node : Node) (key : String) :
    objectHasKey node key.toList = true ↔ HasKey node key := by
  simp [objectHasKey, HasKey, Node.namedChildren, memberHasKey_iff]

/-- The arguments of a call are the members of its list that are not comments. -/
theorem arguments_eq_plain {call list : Node} (found : call.child? "arguments" = some list)
    (kind : list.kind = "arguments") : arguments call = Node.plain list.children := by
  have flipped : (fun child : Node => child.kind != "comment" && child.named) = Node.isPlain := by
    funext child
    exact Bool.and_comm _ _
  simp only [arguments, found, kind, if_true, Node.namedChildren, List.filter_filter, flipped,
    Node.plain]

/-- What stands at a place of a filtered list passes the test and has as many members before it in
the whole list that pass the test. -/
theorem getElem?_filter_eq_some_iff {α : Type} {p : α → Bool} {xs : List α} {index : Nat} {x : α} :
    (xs.filter p)[index]? = some x ↔
      ∃ before after, xs = before ++ x :: after ∧ p x = true ∧ before.countP p = index := by
  constructor
  · intro found
    obtain ⟨inside, here⟩ := List.getElem?_eq_some_iff.mp found
    have split : xs.filter p = (xs.filter p).take index ++ x :: (xs.filter p).drop (index + 1) := by
      rw [← here, ← List.drop_eq_getElem_cons inside, List.take_append_drop]
    obtain ⟨front, back, rfl, taken, dropped⟩ := List.filter_eq_append_iff.mp split
    obtain ⟨skipped, after, rfl, fails, passes, -⟩ := List.filter_eq_cons_iff.mp dropped
    refine ⟨front ++ skipped, after, (List.append_assoc ..).symm, passes, ?_⟩
    rw [List.countP_append, List.countP_eq_zero.mpr fails, List.countP_eq_length_filter, taken,
      List.length_take]
    omega
  · rintro ⟨before, after, rfl, passes, rfl⟩
    rw [List.filter_append, List.filter_cons_of_pos passes, List.countP_eq_length_filter,
      List.getElem?_append_right (Nat.le_refl _), Nat.sub_self]
    rfl

/-- An argument is at an index of the arguments if `HasArgument` says so. -/
theorem arguments_getElem?_eq_some_iff {node : Node} {index : Nat} {argument : Node} :
    (arguments node)[index]? = some argument ↔ HasArgument node index argument := by
  unfold HasArgument
  cases found : node.child? "arguments" with
  | none => simp [arguments, found]
  | some list =>
    by_cases kind : list.kind = "arguments"
    · rw [arguments_eq_plain found kind, Node.plain, getElem?_filter_eq_some_iff]
      simp [kind]
    · simp [arguments, found, kind]

/-- The look-up of a key in an argument finds what `HasOption` describes. -/
theorem argumentHasKey_iff {node : Node} {index : Nat} {key : String} :
    argumentHasKey (arguments node) index key = true ↔ HasOption node index key := by
  unfold argumentHasKey HasOption
  simp only [← arguments_getElem?_eq_some_iff]
  cases (arguments node)[index]? <;> simp [objectHasKey_iff]

end EcmaEdition.Rule
