import EcmaEdition.Proofs.Detection.Source
import EcmaEdition.Proofs.Detection.Walk

/-!
# Asynchronous code

Three features tell what is asynchronous about a program: asynchronous functions, asynchronous
iteration, and `await` outside of functions. The rules behind them are those of functions, of
`await` and of loops, and only the last two look at the scope. Here it is said what each of the
three rules shows, and from this, for whole trees, which nodes a feature of the three comes from
(`asynchronous_exact`). That no other rule ever shows one of them is a matter of sources.
-/

set_option autoImplicit false

namespace EcmaEdition

namespace Rule

variable {scope : Scope} {node : Node} {feature : Feature}

/-- A node is a function if its kind is listed as one. -/
theorem isFunction_iff (node : Node) : isFunction node = true ↔ node.kind ∈ functionKinds := by
  simp [isFunction]

/-! ## The three rules -/

/-- The modifiers of a function show that it is asynchronous, and for a generator also that its
iteration is. -/
theorem mem_modifiers_iff :
    feature ∈ modifiers node ↔
      node.hasChild "async" = true ∧
        (feature = .asyncFunctions ∨
          (node.kindOpensWith "generator_" = true ∨ node.hasChild "*" = true) ∧
            feature = .asyncIteration) := by
  unfold modifiers
  split
  · rename_i async
    simp [async]
  · rename_i sync
    simp [sync]

/-- An `await` shows asynchronous functions inside a function, and itself outside of all. -/
theorem mem_await_iff :
    feature ∈ await scope ↔
      scope = .function ∧ feature = .asyncFunctions ∨
        scope = .outermost ∧ feature = .topLevelAwait := by
  cases scope <;> simp [await]

/-- A loop over members shows that it has `in`, or with `await` its iteration, and outside of all
functions also the `await`. -/
theorem mem_forIn_iff :
    feature ∈ forIn scope node ↔
      node.hasChild "in" = true ∧ feature = .forInMechanics ∨
        node.hasChild "await" = true ∧
          (feature = .asyncIteration ∨ scope = .outermost ∧ feature = .topLevelAwait) := by
  unfold forIn
  rw [FeatureSet.mem_union, FeatureSet.mem_onlyIf]
  split
  · rename_i awaits
    simp [awaits]
  · rename_i plain
    simp [plain]

/-- The rule for an await expression is the one for `await`. -/
theorem ofKind_await (kind : node.kind = "await_expression") : ofKind scope node = await scope := by
  simp only [ofKind, kind]

/-- The rule for a loop over members is the one for such loops. -/
theorem ofKind_forIn (kind : node.kind = "for_in_statement") :
    ofKind scope node = forIn scope node := by
  simp only [ofKind, kind]

/-- All functions have the same rule, but for what a method's name shows. -/
theorem mem_ofKind_function (function : isFunction node = true) (other : feature ≠ .classFields) :
    feature ∈ ofKind scope node ↔ feature ∈ modifiers node := by
  have listed := (isFunction_iff node).mp function
  simp only [functionKinds, List.mem_cons, List.not_mem_nil, or_false] at listed
  obtain kind | kind | kind | kind | kind | kind | kind := listed
  all_goals simp only [ofKind, kind]
  -- a method is what is left
  rw [method, FeatureSet.mem_union, FeatureSet.mem_onlyIf]
  simp only [other, and_false, or_false]

/-! ## The three features at a node -/

/-- Top-level `await` is shown by an `await` and by a loop with `await`, outside of all
functions. -/
theorem topLevelAwait_mem_ofKind_iff :
    .topLevelAwait ∈ ofKind scope node ↔
      (node.kind = "await_expression" ∨
        node.kind = "for_in_statement" ∧ node.hasChild "await" = true) ∧
        scope = .outermost := by
  constructor
  · intro member
    have listed := sourced_ofKind scope node _ member
    simp only [sourceKinds, List.mem_cons, List.not_mem_nil, or_false] at listed
    obtain kind | kind := listed
    · rw [ofKind_await kind, mem_await_iff] at member
      simpa [kind] using member
    · rw [ofKind_forIn kind, mem_forIn_iff] at member
      simpa [kind] using member
  · rintro ⟨kind | ⟨kind, token⟩, outermost⟩
    · rw [ofKind_await kind, mem_await_iff]
      exact Or.inr ⟨outermost, rfl⟩
    · rw [ofKind_forIn kind, mem_forIn_iff]
      exact Or.inr ⟨token, Or.inr ⟨outermost, rfl⟩⟩

/-- Asynchronous functions are shown by a function with `async`, and by an `await` inside a
function. -/
theorem asyncFunctions_mem_ofKind_iff :
    .asyncFunctions ∈ ofKind scope node ↔
      isFunction node = true ∧ node.hasChild "async" = true ∨
        node.kind = "await_expression" ∧ scope = .function := by
  constructor
  · intro member
    have listed := sourced_ofKind scope node _ member
    rw [sourceKinds, List.mem_cons] at listed
    obtain kind | kind := listed
    · rw [ofKind_await kind, mem_await_iff] at member
      exact Or.inr ⟨kind, by simpa using member⟩
    · have function := (isFunction_iff node).mpr kind
      rw [mem_ofKind_function function (by decide), mem_modifiers_iff] at member
      exact Or.inl ⟨function, member.1⟩
  · rintro (⟨function, async⟩ | ⟨kind, inside⟩)
    · rw [mem_ofKind_function function (by decide), mem_modifiers_iff]
      exact ⟨async, Or.inl rfl⟩
    · rw [ofKind_await kind, mem_await_iff]
      exact Or.inl ⟨inside, rfl⟩

/-- Asynchronous iteration is shown by an asynchronous generator and by a loop with `await`. -/
theorem asyncIteration_mem_ofKind_iff :
    .asyncIteration ∈ ofKind scope node ↔
      isFunction node = true ∧ node.hasChild "async" = true ∧
          (node.kindOpensWith "generator_" = true ∨ node.hasChild "*" = true) ∨
        node.kind = "for_in_statement" ∧ node.hasChild "await" = true := by
  constructor
  · intro member
    have listed := sourced_ofKind scope node _ member
    rw [sourceKinds, List.mem_cons] at listed
    obtain kind | kind := listed
    · rw [ofKind_forIn kind, mem_forIn_iff] at member
      exact Or.inr ⟨kind, by simpa using member⟩
    · have function := (isFunction_iff node).mpr kind
      rw [mem_ofKind_function function (by decide), mem_modifiers_iff] at member
      exact Or.inl ⟨function, by simpa using member⟩
  · rintro (⟨function, async, generator⟩ | ⟨kind, token⟩)
    · rw [mem_ofKind_function function (by decide), mem_modifiers_iff]
      exact ⟨async, Or.inr ⟨generator, rfl⟩⟩
    · rw [ofKind_forIn kind, mem_forIn_iff]
      exact Or.inr ⟨token, Or.inl rfl⟩

end Rule

namespace Finder

open EcmaEdition.Rule

/-- The three features of asynchronous code are found in a tree exactly for these reasons.
Top-level `await`: a named `await`, or a named loop with the token `await`, that lies below no
function. Asynchronous functions: a named function with the token `async`, or a named `await` below
a function. Asynchronous iteration: a named function with the token `async` that is a generator by
its kind or by a star, or a named loop with the token `await` anywhere. -/
theorem asynchronous_exact (tree : Node) :
    (.topLevelAwait ∈ find tree ↔
      ∃ site ∈ tree.sites, site.node.named = true ∧
        (site.node.kind = "await_expression" ∨
          site.node.kind = "for_in_statement" ∧
            ∃ child ∈ site.node.children, child.kind = "await") ∧
        ∀ ancestor ∈ site.above, ancestor.kind ∉ functionKinds) ∧
      (.asyncFunctions ∈ find tree ↔
        (∃ site ∈ tree.sites, site.node.named = true ∧ site.node.kind ∈ functionKinds ∧
            ∃ child ∈ site.node.children, child.kind = "async") ∨
          ∃ site ∈ tree.sites, site.node.named = true ∧ site.node.kind = "await_expression" ∧
            ∃ ancestor ∈ site.above, ancestor.kind ∈ functionKinds) ∧
      (.asyncIteration ∈ find tree ↔
        (∃ site ∈ tree.sites, site.node.named = true ∧ site.node.kind ∈ functionKinds ∧
            (∃ child ∈ site.node.children, child.kind = "async") ∧
            ((∃ rest, site.node.kind = "generator_" ++ rest) ∨
              ∃ child ∈ site.node.children, child.kind = "*")) ∨
          ∃ site ∈ tree.sites, site.node.named = true ∧ site.node.kind = "for_in_statement" ∧
            ∃ child ∈ site.node.children, child.kind = "await") := by
  simp only [mem_find_iff, ← isFunction_iff, ← Node.hasChild_iff, ← Node.kindOpensWith_iff]
  refine ⟨?_, ?_, ?_⟩
  · simp only [topLevelAwait_mem_ofKind_iff, Scope.outermost_within_eq_outermost_iff, ne_eq]
  · simp only [asyncFunctions_mem_ofKind_iff, Scope.outermost_within_eq_function_iff, and_or_left,
      exists_or]
  · simp only [asyncIteration_mem_ofKind_iff, and_or_left, exists_or]

end Finder

end EcmaEdition
