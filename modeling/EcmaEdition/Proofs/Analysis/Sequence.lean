import EcmaEdition.Proofs.Analysis.Agreement
import EcmaEdition.Proofs.Detection.Await
import EcmaEdition.Proofs.Detection.Congruence

/-!
# Programs as sequences

A node without a rule that is no function shows what its children show, and nothing else. So a
program that is put together from two parts shows what the parts show, and it needs the later of the
two editions. The order of the parts does not matter, and neither does the order of the statements
in a block or of the members in a class, however deep the block or the class lies in the tree:
putting the children of such sequences into another order is a harmless edit.
-/

set_option autoImplicit false

namespace EcmaEdition

/-- The edit that puts the children of sequences into another order. -/
def Node.Edit.reordering : Node.Edit :=
  fun kind before after => before = after ∨ kind ∈ Node.sequenceKinds ∧ before.Perm after

/-- Changing the order of statements and members is harmless to what the rules look at. -/
theorem Node.harmless_reordering : Node.Edit.reordering.Harmless where
  view reordered looked := by
    obtain rfl | ⟨sequence, -⟩ := reordered
    · exact .refl _
    · exact absurd sequence looked
  kept reordered node listed := by
    obtain rfl | ⟨-, permuted⟩ := reordered
    · exact listed
    · exact permuted.mem_iff.mp listed
  added reordered node listed := by
    obtain rfl | ⟨-, permuted⟩ := reordered
    · exact Or.inl listed
    · exact Or.inl (permuted.mem_iff.mpr listed)

namespace Finder

open EcmaEdition.Rule

/-- A node whose kind has no rule and is no function's shows what its children show. -/
theorem find_of_silent {label : Label} (children : List Node)
    (silent : ∀ scope node, node.kind = label.kind → ofKind scope node = ∅)
    (notFunction : label.kind ∉ functionKinds) :
    find ⟨label, children⟩ = FeatureSet.unions (children.map find) := by
  have bare : features .outermost ⟨label, children⟩ = ∅ := by
    unfold features
    rw [silent .outermost ⟨label, children⟩ rfl, ite_self]
  have below : Scope.outermost.below ⟨label, children⟩ = .outermost := by
    unfold Scope.below
    exact if_neg fun function => notFunction ((isFunction_iff ⟨label, children⟩).mp function)
  rw [find_eq_walk, walk_eq, bare, below, FeatureSet.empty_union]
  exact congrArg FeatureSet.unions (List.map_congr_left fun child _ => (find_eq_walk child).symm)

end Finder

namespace Analysis

open EcmaEdition.Rule

/-- How the answer for a whole follows from the answers for its two parts. -/
structure Joined (front back whole : Except NothingDetected Edition) : Prop where
  /-- Of two editions the later one is needed. -/
  both : ∀ a b, front = .ok a → back = .ok b → whole = .ok (a.later b)
  /-- A part without features adds nothing to what the first part needs. -/
  first : ∀ a failure, front = .ok a → back = .error failure → whole = .ok a
  /-- Nor to what the second part needs. -/
  second : ∀ failure b, front = .error failure → back = .ok b → whole = .ok b
  /-- The whole has no edition exactly if neither part has one. -/
  error_iff : (∃ failure, whole = .error failure) ↔
    (∃ failure, front = .error failure) ∧ ∃ failure, back = .error failure

/-- A tree has a minimum edition if its features need one. -/
theorem minimumEdition_eq_ok_iff (tree : Node) (sourceName : String) (edition : Edition) :
    minimumEdition tree none sourceName = .ok edition ↔
      (Finder.find tree).edition? = some edition := by
  unfold minimumEdition
  cases (Finder.find tree).edition? <;> simp

/-- A tree has no minimum edition if it has no features. -/
theorem exists_minimumEdition_eq_error_iff (tree : Node) (sourceName : String) :
    (∃ failure, minimumEdition tree none sourceName = .error failure) ↔
      (Finder.find tree).edition? = none := by
  unfold minimumEdition
  cases (Finder.find tree).edition? <;> simp

/-- If a tree shows what two others show together, its minimum edition follows from theirs. -/
theorem joined_of_find_eq_union {front back whole : Node}
    (union : Finder.find whole = Finder.find front ∪ Finder.find back) (sourceName : String) :
    Joined (minimumEdition front none sourceName) (minimumEdition back none sourceName)
      (minimumEdition whole none sourceName) := by
  have needed : (Finder.find whole).edition? =
      Option.merge Edition.later (Finder.find front).edition? (Finder.find back).edition? := by
    rw [union, FeatureSet.edition?_union]
  constructor
  · intro a b ha hb
    rw [minimumEdition_eq_ok_iff] at ha hb ⊢
    rw [needed, ha, hb]
    rfl
  · intro a failure ha hb
    have none := (exists_minimumEdition_eq_error_iff back sourceName).mp ⟨failure, hb⟩
    rw [minimumEdition_eq_ok_iff] at ha ⊢
    rw [needed, ha, none]
    rfl
  · intro failure b ha hb
    have none := (exists_minimumEdition_eq_error_iff front sourceName).mp ⟨failure, ha⟩
    rw [minimumEdition_eq_ok_iff] at hb ⊢
    rw [needed, none, hb]
    rfl
  · simp only [exists_minimumEdition_eq_error_iff, needed]
    cases (Finder.find front).edition? <;> cases (Finder.find back).edition? <;> simp

/-- A whole that is no function and has no rule shows what its parts show. Cut in two anywhere, it
shows what the two halves show together, and its minimum edition without a default is the later of
theirs, or the only one there is, or none. And a tree shows the same, and has the same minimum
edition with any default, when the children of any programs, statement blocks and class bodies in it
are put into another order. -/
theorem sequence_laws :
    (∀ (whole front back : Label) (xs ys : List Node),
      (∀ scope node, node.kind = whole.kind → ofKind scope node = ∅) →
      whole.kind ∉ functionKinds → front.kind = whole.kind → back.kind = whole.kind →
      Finder.find ⟨whole, xs ++ ys⟩ = Finder.find ⟨front, xs⟩ ∪ Finder.find ⟨back, ys⟩ ∧
        ∀ sourceName,
          Joined (minimumEdition ⟨front, xs⟩ none sourceName)
            (minimumEdition ⟨back, ys⟩ none sourceName)
            (minimumEdition ⟨whole, xs ++ ys⟩ none sourceName)) ∧
      ∀ tree reordered, Node.Edited .reordering tree reordered →
        Finder.find reordered = Finder.find tree ∧
          ∀ default sourceName,
            minimumEdition reordered default sourceName =
              minimumEdition tree default sourceName := by
  constructor
  · intro whole front back xs ys silent notFunction hfront hback
    have union : Finder.find ⟨whole, xs ++ ys⟩ =
        Finder.find ⟨front, xs⟩ ∪ Finder.find ⟨back, ys⟩ := by
      rw [Finder.find_of_silent _ silent notFunction,
        Finder.find_of_silent xs (hfront ▸ silent) (hfront ▸ notFunction),
        Finder.find_of_silent ys (hback ▸ silent) (hback ▸ notFunction), List.map_append,
        FeatureSet.unions_append]
    exact ⟨union, joined_of_find_eq_union union⟩
  · intro tree reordered edited
    have same := Finder.find_of_edited Node.harmless_reordering edited
    refine ⟨same.symm, ?_⟩
    intro default sourceName
    unfold minimumEdition
    rw [same]

/-- A power. -/
def raised : Node :=
  ⟨{ kind := "binary_expression" },
    [⟨{ kind := "**", named := false, field := some "operator" }, []⟩]⟩

/-- An optional chain. -/
def chained : Node := ⟨{ kind := "optional_chain" }, []⟩

/-- A program that is a sequence of the given nodes. -/
def program (nodes : List Node) : Node := ⟨{ kind := "program" }, nodes⟩

/-- A program that has a function with the given nodes in its body, and an optional chain behind
it. -/
def withFunction (nodes : List Node) : Node :=
  program [⟨{ kind := "function_declaration" }, [⟨{ kind := "statement_block" }, nodes⟩]⟩, chained]

/-- A power and an optional chain need the edition of the chain, and either may come first, in a
program and in a function in it. -/
theorem sequence_laws_power :
    Finder.find (program [raised, chained]) =
        Finder.find (program [raised]) ∪ Finder.find (program [chained]) ∧
      minimumEdition (program [raised, chained]) none defaultName = .ok .es11 ∧
      Finder.find (program (withFunction [chained, raised]).children.reverse) =
        Finder.find (withFunction [raised, chained]) := by
  have bare : Ruleless "program" := by decide
  have silent : ∀ scope (node : Node), node.kind = "program" → ofKind scope node = ∅ := by
    intro scope node kind
    exact ofKind_of_ruleless (kind ▸ bare) scope
  obtain ⟨union, joined⟩ := sequence_laws.1 { kind := "program" } { kind := "program" }
    { kind := "program" } [raised] [chained] silent (by decide) rfl rfl
  have first : minimumEdition (program [raised]) none defaultName = .ok .es7 := by
    rw [minimumEdition_eq_ok_iff, Finder.find_eq_walk]
    decide
  have second : minimumEdition (program [chained]) none defaultName = .ok .es11 := by
    rw [minimumEdition_eq_ok_iff, Finder.find_eq_walk]
    decide
  refine ⟨union, (joined defaultName).both _ _ first second, ?_⟩
  have still : ∀ label, Node.Edited .reordering ⟨label, []⟩ ⟨label, []⟩ :=
    fun label => .node (.refl label) .nil (Or.inl rfl)
  have power : Node.Edited .reordering raised raised :=
    .node (.refl _) (.cons (still _) .nil) (Or.inl rfl)
  have body : Node.Edited .reordering ⟨{ kind := "statement_block" }, [raised, chained]⟩
      ⟨{ kind := "statement_block" }, [chained, raised]⟩ :=
    .node (.refl _) (.cons power (.cons (still _) .nil)) (Or.inr ⟨by decide, .swap _ _ _⟩)
  have function : Node.Edited .reordering
      ⟨{ kind := "function_declaration" }, [⟨{ kind := "statement_block" }, [raised, chained]⟩]⟩
      ⟨{ kind := "function_declaration" }, [⟨{ kind := "statement_block" }, [chained, raised]⟩]⟩ :=
    .node (.refl _) (.cons body .nil) (Or.inl rfl)
  have whole : Node.Edited .reordering (withFunction [raised, chained])
      (program (withFunction [chained, raised]).children.reverse) :=
    .node (.refl _) (.cons function (.cons (still _) .nil)) (Or.inr ⟨by decide, .swap _ _ _⟩)
  exact (sequence_laws.2 _ _ whole).1

end Analysis

end EcmaEdition
