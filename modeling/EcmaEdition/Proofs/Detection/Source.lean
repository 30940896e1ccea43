import EcmaEdition.Detection.Rule
import EcmaEdition.Proofs.Feature.Set

/-!
# Where features come from

Each rule can show a few features only. So for every feature there is a short list of kinds of
nodes, its sources, and a node of any other kind never shows it (`sourced_ofKind`). With this a
statement about one feature has to look at the rules of its sources and at no others.

Being sourced is a property of sets: all members of the set have the kind among their sources. It
holds of a union if it holds of both parts, so it is proved of a rule by following the way in which
the rule puts its set together.
-/

set_option autoImplicit false

namespace EcmaEdition.Rule

/-- The kinds of nodes that may show a feature. -/
def sourceKinds : Feature → List String
  | .exponentiationOperator => ["binary_expression", "augmented_assignment_expression"]
  | .nullishCoalescingOperator | .privateFieldBrandChecks => ["binary_expression"]
  | .logicalAssignmentOperators => ["augmented_assignment_expression"]
  | .objectValuesEntries | .objectGetOwnPropertyDescriptors | .objectFromEntries | .objectHasOwn
  | .promiseAllSettled | .promiseAny | .promiseWithResolvers | .promiseTry | .atomicsWaitAsync
  | .regexpEscape | .arrayGrouping | .dynamicImport => ["call_expression"]
  | .sharedMemoryAndAtomics | .weakReferences | .resizableArrayBuffers => ["new_expression"]
  | .errorCause | .float16Array => ["call_expression", "new_expression"]
  | .regexpDotAllFlag | .regexpLookbehindAssertions | .regexpUnicodePropertyEscapes
  | .regexpNamedCaptureGroups | .regexpMatchIndices | .regexpVFlag | .duplicateNamedCaptureGroups
  | .regexpModifiers => ["regex", "call_expression", "new_expression"]
  | .bigint => ["number", "call_expression"]
  | .numericSeparators => ["number"]
  | .asyncFunctions => "await_expression" :: functionKinds
  | .asyncIteration => "for_in_statement" :: functionKinds
  | .topLevelAwait => ["await_expression", "for_in_statement"]
  | .forInMechanics => ["for_in_statement"]
  | .restSpreadProperties => ["rest_pattern", "spread_element"]
  | .optionalCatchBinding => ["catch_clause"]
  | .optionalChaining => ["optional_chain"]
  | .globalThis => ["member_expression", "subscript_expression"]
  | .importMeta => ["meta_property", "member_expression", "subscript_expression"]
  | .classFields => ["field_definition", "method_definition"]
  | .classStaticBlock => ["class_static_block"]
  | .hashbangGrammar => ["hashbang_line", "hashbang_comment", "hash_bang_line"]

/-- All members of a set have the kind among their sources. -/
def Sourced (kind : String) (set : FeatureSet) : Prop :=
  ∀ feature ∈ set, kind ∈ sourceKinds feature

namespace Sourced

variable {kind : String} {a b : FeatureSet} {feature : Feature}

/-- The empty set needs no source. -/
theorem empty (kind : String) : Sourced kind ∅ := by
  intro feature member
  exact absurd member (FeatureSet.not_mem_empty feature)

/-- One feature has the kind among its sources if the table says so. -/
theorem singleton (listed : kind ∈ sourceKinds feature) : Sourced kind {feature} := by
  intro member same
  rw [FeatureSet.mem_singleton] at same
  rwa [same]

/-- What two sets need, both need together. -/
theorem union (ha : Sourced kind a) (hb : Sourced kind b) : Sourced kind (a ∪ b) := by
  intro feature member
  rw [FeatureSet.mem_union] at member
  obtain inA | inB := member
  · exact ha feature inA
  · exact hb feature inB

/-- A feature under a condition needs what it needs without. -/
theorem onlyIf (condition : Bool) (listed : kind ∈ sourceKinds feature) :
    Sourced kind (FeatureSet.onlyIf condition feature) := by
  cases condition with
  | false => exact empty kind
  | true => exact singleton listed

/-- An optional feature needs what it needs if it is there. -/
theorem optional {found : Option Feature}
    (listed : ∀ feature, found = some feature → kind ∈ sourceKinds feature) :
    Sourced kind (optional found) := by
  cases found with
  | none => exact empty kind
  | some feature => exact singleton (listed feature rfl)

end Sourced

/-! ## The tables -/

/-- The features of static members are shown by calls. -/
theorem staticCall?_sources (receiver member : String) (feature : Feature)
    (found : staticCall? receiver member = some feature) :
    "call_expression" ∈ sourceKinds feature := by
  unfold staticCall? at found
  split at found <;> cases found <;> decide

/-- Grouping on arrays is shown by calls. -/
theorem arrayCall?_sources (member : String) (feature : Feature)
    (found : arrayCall? member = some feature) : "call_expression" ∈ sourceKinds feature := by
  unfold arrayCall? at found
  split at found <;> cases found
  decide

/-- The features of constructed names are shown by constructions. -/
theorem construction?_sources (name : String) (feature : Feature)
    (found : construction? name = some feature) : "new_expression" ∈ sourceKinds feature := by
  unfold construction? at found
  split at found <;> cases found <;> decide

/-- The features of binary operators are shown by binary expressions. -/
theorem binaryOperator?_sources (operator : String) (feature : Feature)
    (found : binaryOperator? operator = some feature) :
    "binary_expression" ∈ sourceKinds feature := by
  unfold binaryOperator? at found
  split at found <;> cases found <;> decide

/-- The features of operators of assignments are shown by assignments with an operator. -/
theorem assignmentOperator?_sources (operator : String) (feature : Feature)
    (found : assignmentOperator? operator = some feature) :
    "augmented_assignment_expression" ∈ sourceKinds feature := by
  unfold assignmentOperator? at found
  split at found <;> cases found <;> decide

/-! ## The rules -/

variable {kind : String}

/-- Modifiers show what has all functions among its sources. -/
theorem sourced_modifiers (node : Node) (listed : kind ∈ functionKinds) :
    Sourced kind (modifiers node) := by
  unfold modifiers
  split
  · apply Sourced.union
    · exact .singleton (List.mem_cons_of_mem _ listed)
    · exact .onlyIf _ (List.mem_cons_of_mem _ listed)
  · exact .empty kind

/-- A method definition shows what has such definitions among its sources. -/
theorem sourced_method (node : Node) : Sourced "method_definition" (method node) := by
  unfold method
  apply Sourced.union
  · exact sourced_modifiers node (by decide)
  · exact .onlyIf _ (by decide)

/-- An `await` shows what has it among its sources. -/
theorem sourced_await (scope : Scope) : Sourced "await_expression" (await scope) := by
  cases scope <;> exact .singleton (by decide)

/-- A binary expression shows what has such expressions among its sources. -/
theorem sourced_binary (node : Node) : Sourced "binary_expression" (binary node) := by
  unfold binary
  split
  · apply Sourced.union
    · exact .optional (binaryOperator?_sources _)
    · exact .onlyIf _ (by decide)
  · exact .empty _

/-- An assignment with an operator shows what has such assignments among its sources. -/
theorem sourced_augmentedAssignment (node : Node) :
    Sourced "augmented_assignment_expression" (augmentedAssignment node) := by
  unfold augmentedAssignment
  split
  · exact .optional (assignmentOperator?_sources _)
  · exact .empty _

/-- A pattern shows what has literals, calls and constructions among its sources. -/
theorem sourced_pattern (pattern flags : List Char)
    (listed : kind ∈ ["regex", "call_expression", "new_expression"]) :
    Sourced kind (Pattern.features pattern flags) := by
  have hflags : Sourced kind (Pattern.flagFeatures flags) := by
    unfold Pattern.flagFeatures
    refine .union (.union ?_ ?_) ?_ <;> exact .onlyIf _ listed
  refine .union (.union (.union (.union (.union hflags ?_) ?_) ?_) ?_) ?_ <;>
    exact .onlyIf _ listed

/-- A constructor that may be called shows what has both its uses among its sources. -/
theorem sourced_sharedConstructor (name : String) (arguments : List Node)
    (listed : kind ∈ ["call_expression", "new_expression"]) :
    Sourced kind (sharedConstructor name arguments) := by
  unfold sharedConstructor
  split
  · exact sourced_pattern _ _ (List.mem_cons_of_mem _ listed)
  · split
    · exact .onlyIf _ listed
    · exact .empty kind

/-- A call of a member shows what has calls among its sources. -/
theorem sourced_memberCall (callee : Node) : Sourced "call_expression" (memberCall callee) := by
  unfold memberCall
  split
  · split
    · exact .empty _
    · split
      · exact .optional (staticCall?_sources _ _)
      · split
        · exact .optional (arrayCall?_sources _)
        · exact .empty _
  · exact .empty _

/-- A call of a plain name shows what has calls among its sources. -/
theorem sourced_namedCall (name : String) (arguments : List Node) :
    Sourced "call_expression" (namedCall name arguments) := by
  unfold namedCall
  split
  · split
    · exact .onlyIf _ (by decide)
    · exact .empty _
  · exact sourced_sharedConstructor name arguments (by decide)

/-- A call shows what has calls among its sources. -/
theorem sourced_call (node : Node) : Sourced "call_expression" (call node) := by
  unfold call
  split
  · split
    · exact .singleton (by decide)
    · split
      · exact sourced_memberCall _
      · split
        · exact sourced_namedCall _ _
        · exact .empty _
  · exact .empty _

/-- A construction shows what has constructions among its sources. -/
theorem sourced_construction (node : Node) : Sourced "new_expression" (construction node) := by
  unfold construction
  split
  · split
    · exact .empty _
    · apply Sourced.union
      · apply Sourced.union
        · exact .optional (construction?_sources _)
        · exact .onlyIf _ (by decide)
      · exact sourced_sharedConstructor _ _ (by decide)
  · exact .empty _

/-- An access shows what has both its forms among its sources. -/
theorem sourced_access (node : Node)
    (listed : kind ∈ ["member_expression", "subscript_expression"]) :
    Sourced kind (access node) := by
  unfold access
  split
  · split
    · exact .onlyIf _ listed
    · exact .onlyIf _ (List.mem_cons_of_mem _ listed)
  · exact .empty kind

/-- A number shows what has numbers among its sources. -/
theorem sourced_number (node : Node) : Sourced "number" (number node) := by
  apply Sourced.union
  · exact .onlyIf _ (by decide)
  · exact .onlyIf _ (by decide)

/-- A loop over members shows what has such loops among its sources. -/
theorem sourced_forIn (scope : Scope) (node : Node) :
    Sourced "for_in_statement" (forIn scope node) := by
  unfold forIn
  apply Sourced.union
  · exact .onlyIf _ (by decide)
  · split
    · exact (Sourced.singleton (by decide)).union (.onlyIf _ (by decide))
    · exact .empty _

/-- A node shows a feature only if its kind is among the feature's sources. -/
theorem sourced_ofKind (scope : Scope) (node : Node) : Sourced node.kind (ofKind scope node) := by
  unfold ofKind
  generalize node.kind = kind
  split
  -- one goal for each kind that has a rule, in the order of the rules
  iterate 3 exact .singleton (by decide)
  iterate 6 exact sourced_modifiers node (by decide)
  · exact sourced_method node
  · exact .singleton (by decide)
  · exact .singleton (by decide)
  · exact sourced_await scope
  · exact sourced_binary node
  · exact sourced_augmentedAssignment node
  · exact .singleton (by decide)
  · exact sourced_call node
  · exact sourced_construction node
  · exact sourced_access node (by decide)
  · exact sourced_access node (by decide)
  · exact .onlyIf _ (by decide)
  · exact sourced_number node
  · exact sourced_pattern _ _ (by decide)
  · exact .singleton (by decide)
  · exact .singleton (by decide)
  · exact sourced_forIn scope node
  · exact .onlyIf _ (by decide)
  · exact .empty _

/-- No rule is for a kind: it is among no feature's sources. -/
def Ruleless (kind : String) : Prop :=
  ∀ feature, kind ∉ sourceKinds feature

instance (kind : String) : Decidable (Ruleless kind) :=
  decidable_of_iff (∀ feature ∈ Feature.all, kind ∉ sourceKinds feature)
    ⟨fun none feature => none feature (Feature.mem_all feature), fun none feature _ => none feature⟩

/-- A node of a kind without rules shows nothing. -/
theorem ofKind_of_ruleless {node : Node} (ruleless : Ruleless node.kind) (scope : Scope) :
    ofKind scope node = ∅ := by
  rw [FeatureSet.eq_empty_iff]
  intro feature member
  exact ruleless feature (sourced_ofKind scope node feature member)

end EcmaEdition.Rule
