import EcmaEdition.Proofs.Detection.Congruence

/-!
# Comments

Comments may stand anywhere in a program, and the parser leaves each of them where it stands, as one
more child among the others. To put comments between the children of any nodes of a tree, at all
depths at once, is a harmless edit. So a program shows the same features with its comments and
without them, and each argument of a call keeps its place.
-/

set_option autoImplicit false

namespace EcmaEdition

namespace Node

/-- Some nodes in their order, with comments put before, between and after them. -/
inductive Commented : List Node → List Node → Prop where
  | nil : Commented [] []
  | keep (node : Node) {nodes commented : List Node} (rest : Commented nodes commented) :
    Commented (node :: nodes) (node :: commented)
  | insert {comment : Node} {nodes commented : List Node} (isComment : comment.IsComment)
      (rest : Commented nodes commented) : Commented nodes (comment :: commented)

/-- The edit that puts comments between the children of any node. -/
def Edit.commenting : Edit :=
  fun _ => Commented

namespace Commented

variable {nodes commented : List Node}

/-- The first node of a field is no comment, so comments do not change which one it is. -/
theorem find?_field (inserted : Commented nodes commented) (field : String) :
    nodes.find? (·.label.field == some field) = commented.find? (·.label.field == some field) := by
  induction inserted with
  | nil => rfl
  | keep node _ ih => rw [List.find?_cons, List.find?_cons, ih]
  | insert isComment _ ih =>
    rw [ih, List.find?_cons, isComment.field]
    rfl

/-- Comments do not change whether a node of another kind is there. -/
theorem any_kind (inserted : Commented nodes commented) {kind : String} (other : kind ≠ "comment") :
    nodes.any (·.kind == kind) = commented.any (·.kind == kind) := by
  induction inserted with
  | nil => rfl
  | keep node _ ih => rw [List.any_cons, List.any_cons, ih]
  | insert isComment _ ih =>
    rw [ih, List.any_cons, isComment.kind, beq_false_of_ne other.symm, Bool.false_or]

/-- Comments are left out of the named nodes of a list. -/
theorem plain_eq (inserted : Commented nodes commented) : plain nodes = plain commented := by
  unfold plain
  induction inserted with
  | nil => rfl
  | keep node _ ih => rw [List.filter_cons, List.filter_cons, ih]
  | insert isComment _ ih =>
    rw [ih, List.filter_cons_of_neg]
    simp [isPlain, isComment.kind]

/-- All nodes are still there when comments have been added. -/
theorem mem_of_mem (inserted : Commented nodes commented) {node : Node} (listed : node ∈ nodes) :
    node ∈ commented := by
  induction inserted with
  | nil => exact listed
  | keep _ _ ih =>
    obtain rfl | later := List.mem_cons.mp listed
    · exact List.mem_cons_self
    · exact List.mem_cons_of_mem _ (ih later)
  | insert _ _ ih => exact List.mem_cons_of_mem _ (ih listed)

/-- A node that is there when comments have been added is a comment or was there before. -/
theorem mem_or_isComment (inserted : Commented nodes commented) {node : Node}
    (listed : node ∈ commented) : node ∈ nodes ∨ node.IsComment := by
  induction inserted with
  | nil => exact Or.inl listed
  | keep _ _ ih =>
    obtain rfl | later := List.mem_cons.mp listed
    · exact Or.inl List.mem_cons_self
    · exact (ih later).imp_left (List.mem_cons_of_mem _)
  | insert isComment _ ih =>
    obtain rfl | later := List.mem_cons.mp listed
    · exact Or.inr isComment
    · exact ih later

end Commented

/-- Adding comments is harmless to what the rules look at. -/
theorem harmless_commenting : Edit.commenting.Harmless where
  view inserted _ :=
    ⟨inserted.find?_field, fun _ other => inserted.any_kind other, inserted.plain_eq⟩
  kept inserted _ listed := inserted.mem_of_mem listed
  added inserted _ listed := inserted.mem_or_isComment listed

end Node

namespace Finder

open EcmaEdition.Literal EcmaEdition.Rule

/-- Comments change nothing. A tree with comments put between its children, and between those of any
nodes below, shows the same features. And the arguments of a call or of a construction stay at their
places: the argument at each place is the same but for the comments in it, and it is of the same
kind, has the same value if it is constant, and has the same keys if it is an object. -/
theorem find_commented {tree commented : Node} (inserted : Node.Edited .commenting tree commented) :
    find commented = find tree ∧
      (tree.kind = "call_expression" ∨ tree.kind = "new_expression" →
        List.Forall₂ (Node.Edited .commenting) (arguments tree) (arguments commented) ∧
          ∀ place,
            (arguments commented)[place]?.map Node.kind = (arguments tree)[place]?.map Node.kind ∧
              (arguments commented)[place]?.bind stringValue? =
                (arguments tree)[place]?.bind stringValue? ∧
              ∀ key, argumentHasKey (arguments commented) place key =
                argumentHasKey (arguments tree) place key) := by
  refine ⟨(find_of_edited Node.harmless_commenting inserted).symm, ?_⟩
  intro applied
  have looked : tree.kind ∉ Node.sequenceKinds := by
    obtain kind | kind := applied <;> rw [kind] <;> decide
  have args := arguments_of_edited Node.harmless_commenting inserted looked
  refine ⟨args, ?_⟩
  intro place
  refine ⟨?_, (bind_stringValue?_of_edited Node.harmless_commenting args place).symm,
    fun key => (argumentHasKey_of_edited Node.harmless_commenting args place key).symm⟩
  obtain ⟨before, after⟩ | ⟨x, y, before, after, argument⟩ := Node.getElem?_of_forall₂ args place
  · rw [before, after]
  · rw [before, after, Option.map_some, Option.map_some, argument.kind_eq]

def remark : Node := ⟨{ kind := "comment" }, []⟩

/-- A power, with nodes before its operator. -/
def power (front : List Node) : Node :=
  ⟨{ kind := "binary_expression" },
    front ++ [⟨{ kind := "**", named := false, field := some "operator" }, []⟩]⟩

/-- A call of a function, with arguments and with nodes before the name and before the list. -/
def callWith (front middle list : List Node) : Node :=
  ⟨{ kind := "call_expression" },
    front ++ ⟨{ kind := "identifier", field := some "function" }, []⟩ :: middle ++
      [⟨{ kind := "arguments", field := some "arguments" }, list⟩]⟩

def oneLiteral : Node := ⟨{ kind := "number", text := some "1".toUTF8 }, []⟩

/-- A call of a power and a number shows the power whatever comments stand before its name, in its
list and in the power itself, and the number stays its second argument. -/
theorem find_commented_power :
    find (callWith [remark] [remark] [remark, power [remark], remark, oneLiteral, remark]) =
        find (callWith [] [] [power [], oneLiteral]) ∧
      (arguments (callWith [remark] [remark]
        [remark, power [remark], remark, oneLiteral, remark]))[1]?.map Node.kind =
          some "number" := by
  have isComment : remark.IsComment := ⟨rfl, rfl, rfl, rfl⟩
  have leaf : ∀ label, Node.Edited .commenting ⟨label, []⟩ ⟨label, []⟩ :=
    fun label => .node (.refl label) .nil .nil
  have powers : Node.Edited .commenting (power []) (power [remark]) :=
    .node (.refl _) (.cons (leaf _) .nil) (.insert isComment (.keep _ .nil))
  have lists : Node.Edited .commenting
      ⟨{ kind := "arguments", field := some "arguments" }, [power [], oneLiteral]⟩
      ⟨{ kind := "arguments", field := some "arguments" },
        [remark, power [remark], remark, oneLiteral, remark]⟩ :=
    .node (.refl _) (.cons powers (.cons (leaf _) .nil))
      (.insert isComment (.keep _ (.insert isComment (.keep _ (.insert isComment .nil)))))
  have calls : Node.Edited .commenting (callWith [] [] [power [], oneLiteral])
      (callWith [remark] [remark] [remark, power [remark], remark, oneLiteral, remark]) :=
    .node (.refl _) (.cons (leaf _) (.cons lists .nil))
      (.insert isComment (.keep _ (.insert isComment (.keep _ .nil))))
  obtain ⟨same, places⟩ := find_commented calls
  obtain ⟨-, place⟩ := places (Or.inl rfl)
  exact ⟨same, (place 1).1⟩

end Finder

end EcmaEdition
