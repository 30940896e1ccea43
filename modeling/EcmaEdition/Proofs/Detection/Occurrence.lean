import EcmaEdition.Proofs.Detection.Application
import EcmaEdition.Proofs.Detection.Await

/-!
# Where a feature occurs

The rules are arranged by the kinds of nodes, and one rule may show many features. Turned around,
there is a list of sources for each feature: the constructs that show it. Here the lists are
written down (`Shows`), and a feature is found in a tree if and only if one of its sources occurs at
a named node (`sources_exact`).

To prove this for a feature is to look at its sources by kind. For a kind among them, the lemma
about the rule of the kind says what is shown; a node of any other kind shows nothing of the sort.
-/

set_option autoImplicit false

namespace EcmaEdition

namespace Rule

open EcmaEdition.Literal

/-! ## Sources -/

/-- The text of the argument at a place; it is empty if the argument is absent or no constant. -/
def argumentText (node : Node) (index : Nat) : List Char :=
  ((arguments node)[index]?.bind stringValue?).getD []

/-- A regular expression that is known with its pattern and flags: a literal, or `RegExp` applied
with `new` or without. -/
inductive Inspects (node : Node) : List Char → List Char → Prop where
  | literal (kind : node.kind = "regex") :
    Inspects node (Node.chars? (node.child? "pattern")) (Node.chars? (node.child? "flags"))
  | call (calls : Calls node "RegExp") : Inspects node (argumentText node 0) (argumentText node 1)
  | construction (constructs : Constructs node "RegExp") :
    Inspects node (argumentText node 0) (argumentText node 1)

/-- A regular expression with a feature. -/
def InspectsWith (node : Node) (feature : Feature) : Prop :=
  ∃ pattern flags, Inspects node pattern flags ∧ feature ∈ Pattern.features pattern flags

def Operates (node : Node) (operator : String) : Prop :=
  node.kind = "binary_expression" ∧ HasField node "operator" operator

def Assigns (node : Node) (operator : String) : Prop :=
  node.kind = "augmented_assignment_expression" ∧ HasField node "operator" operator

/-- An access to a member, by a name or by an index. -/
def IsAccess (node : Node) : Prop :=
  node.kind = "member_expression" ∨ node.kind = "subscript_expression"

/-- A function with the modifier of asynchronous ones. -/
def IsAsync (node : Node) : Prop :=
  node.kind ∈ functionKinds ∧ node.hasChild "async" = true

/-- A loop that awaits each value. -/
def IsAwaitingLoop (node : Node) : Prop :=
  node.kind = "for_in_statement" ∧ node.hasChild "await" = true

/-- The sources of each feature. Only for `await` it matters in which scope the node stands. -/
def Shows (scope : Scope) (node : Node) : Feature → Prop
  | .exponentiationOperator => Operates node "**" ∨ Assigns node "**="
  | .nullishCoalescingOperator => Operates node "??"
  | .privateFieldBrandChecks =>
    Operates node "in" ∧ HasField node "left" "private_property_identifier"
  | .logicalAssignmentOperators => Assigns node "??=" ∨ Assigns node "&&=" ∨ Assigns node "||="
  | .objectValuesEntries => CallsStatic node "Object" "values" ∨ CallsStatic node "Object" "entries"
  | .objectGetOwnPropertyDescriptors => CallsStatic node "Object" "getOwnPropertyDescriptors"
  | .objectFromEntries => CallsStatic node "Object" "fromEntries"
  | .objectHasOwn => CallsStatic node "Object" "hasOwn"
  | .promiseAllSettled => CallsStatic node "Promise" "allSettled"
  | .promiseAny => CallsStatic node "Promise" "any"
  | .promiseWithResolvers => CallsStatic node "Promise" "withResolvers"
  | .promiseTry => CallsStatic node "Promise" "try"
  | .atomicsWaitAsync => CallsStatic node "Atomics" "waitAsync"
  | .regexpEscape => CallsStatic node "RegExp" "escape"
  | .arrayGrouping =>
    CallsStatic node "Object" "groupBy" ∨ CallsStatic node "Map" "groupBy" ∨
      CallsOnArray node "groupBy"
  | .dynamicImport => node.kind = "call_expression" ∧ HasField node "function" "import"
  | .sharedMemoryAndAtomics => Constructs node "SharedArrayBuffer"
  | .weakReferences => Constructs node "WeakRef" ∨ Constructs node "FinalizationRegistry"
  | .float16Array => CallsStatic node "Math" "f16round" ∨ Constructs node "Float16Array"
  | .resizableArrayBuffers =>
    (Constructs node "ArrayBuffer" ∨ Constructs node "SharedArrayBuffer") ∧
      HasOption node 1 "maxByteLength"
  | .errorCause =>
    ∃ name index, errorOptionsIndex? name = some index ∧ (Calls node name ∨ Constructs node name) ∧
      HasOption node index "cause"
  | .regexpDotAllFlag => InspectsWith node .regexpDotAllFlag
  | .regexpLookbehindAssertions => InspectsWith node .regexpLookbehindAssertions
  | .regexpUnicodePropertyEscapes => InspectsWith node .regexpUnicodePropertyEscapes
  | .regexpNamedCaptureGroups => InspectsWith node .regexpNamedCaptureGroups
  | .regexpMatchIndices => InspectsWith node .regexpMatchIndices
  | .regexpVFlag => InspectsWith node .regexpVFlag
  | .duplicateNamedCaptureGroups => InspectsWith node .duplicateNamedCaptureGroups
  | .regexpModifiers => InspectsWith node .regexpModifiers
  | .bigint =>
    (node.kind = "number" ∧ ∃ digits, node.chars = digits ++ ['n']) ∨
      Calls node "BigInt" ∧ ∃ operand, HasArgument node 0 operand ∧
        (operand.kind = "string" ∨ operand.kind = "number")
  | .numericSeparators => node.kind = "number" ∧ '_' ∈ node.chars
  | .asyncFunctions => IsAsync node ∨ node.kind = "await_expression" ∧ scope = .function
  | .asyncIteration =>
    IsAsync node ∧ (node.kindOpensWith "generator_" = true ∨ node.hasChild "*" = true) ∨
      IsAwaitingLoop node
  | .topLevelAwait =>
    (node.kind = "await_expression" ∨ IsAwaitingLoop node) ∧ scope = .outermost
  | .forInMechanics => node.kind = "for_in_statement" ∧ node.hasChild "in" = true
  | .restSpreadProperties => node.kind = "rest_pattern" ∨ node.kind = "spread_element"
  | .optionalCatchBinding => node.kind = "catch_clause" ∧ node.child? "parameter" = none
  | .optionalChaining => node.kind = "optional_chain"
  | .globalThis => IsAccess node ∧ HasName node "object" "globalThis"
  | .importMeta =>
    node.kind = "meta_property" ∧ node.hasChild "import" = true ∨
      IsAccess node ∧ HasField node "object" "import"
  | .classFields =>
    node.kind = "field_definition" ∨
      node.kind = "method_definition" ∧ HasField node "name" "private_property_identifier"
  | .classStaticBlock => node.kind = "class_static_block"
  | .hashbangGrammar =>
    node.kind = "hashbang_line" ∨ node.kind = "hashbang_comment" ∨ node.kind = "hash_bang_line"

/-! ## Rules of other kinds -/

variable {scope : Scope} {node : Node} {feature : Feature}

/-- Two binary operators came with an edition: the power and the default for absent values. -/
theorem binaryOperator?_eq_some_iff (operator : String) :
    binaryOperator? operator = some feature ↔
      operator = "**" ∧ feature = .exponentiationOperator ∨
        operator = "??" ∧ feature = .nullishCoalescingOperator := by
  constructor
  · intro found
    unfold binaryOperator? at found
    split at found <;> cases found <;> simp
  · rintro (⟨rfl, rfl⟩ | ⟨rfl, rfl⟩) <;> rfl

/-- Four operators of assignments came with an edition: the power and the logical ones. -/
theorem assignmentOperator?_eq_some_iff (operator : String) :
    assignmentOperator? operator = some feature ↔
      operator = "**=" ∧ feature = .exponentiationOperator ∨
        (operator = "??=" ∨ operator = "&&=" ∨ operator = "||=") ∧
          feature = .logicalAssignmentOperators := by
  constructor
  · intro found
    unfold assignmentOperator? at found
    split at found <;> cases found <;> simp
  · rintro (⟨rfl, rfl⟩ | ⟨rfl | rfl | rfl, rfl⟩) <;> rfl

/-- A binary expression shows its operator, and a test for a private name. -/
theorem mem_ofKind_binary_iff :
    node.kind = "binary_expression" ∧ feature ∈ ofKind scope node ↔
      Operates node "**" ∧ feature = .exponentiationOperator ∨
        Operates node "??" ∧ feature = .nullishCoalescingOperator ∨
        (Operates node "in" ∧ HasField node "left" "private_property_identifier") ∧
          feature = .privateFieldBrandChecks := by
  by_cases kind : node.kind = "binary_expression"
  · have rule : ofKind scope node = binary node := by simp only [ofKind, kind]
    unfold Operates HasField
    rw [rule, binary]
    cases node.child? "operator" with
    | none => simp
    | some operator =>
      cases node.child? "left" <;>
        simp [kind, mem_optional_iff, binaryOperator?_eq_some_iff, or_assoc]
  · simp [Operates, kind]

/-- An assignment with an operator shows the operator. -/
theorem mem_ofKind_assignment_iff :
    node.kind = "augmented_assignment_expression" ∧ feature ∈ ofKind scope node ↔
      Assigns node "**=" ∧ feature = .exponentiationOperator ∨
        (Assigns node "??=" ∨ Assigns node "&&=" ∨ Assigns node "||=") ∧
          feature = .logicalAssignmentOperators := by
  by_cases kind : node.kind = "augmented_assignment_expression"
  · have rule : ofKind scope node = augmentedAssignment node := by simp only [ofKind, kind]
    unfold Assigns HasField
    rw [rule, augmentedAssignment]
    cases node.child? "operator" with
    | none => simp
    | some operator => simp [kind, mem_optional_iff, assignmentOperator?_eq_some_iff]
  · simp [Assigns, kind]

/-- An access shows what it is an access to: the global object or the properties of an import. -/
theorem mem_access_iff :
    feature ∈ access node ↔
      HasName node "object" "globalThis" ∧ feature = .globalThis ∨
        HasField node "object" "import" ∧ feature = .importMeta := by
  unfold access HasName HasField
  cases node.child? "object" with
  | none => simp
  | some receiver =>
    by_cases identifier : receiver.kind = "identifier"
    · simp [identifier]
    · simp [identifier]

/-- Both forms of an access, with a dot and with brackets, show what they are accesses to. -/
theorem mem_ofKind_access_iff :
    (node.kind = "member_expression" ∧ feature ∈ ofKind scope node ∨
        node.kind = "subscript_expression" ∧ feature ∈ ofKind scope node) ↔
      (IsAccess node ∧ HasName node "object" "globalThis") ∧ feature = .globalThis ∨
        (IsAccess node ∧ HasField node "object" "import") ∧ feature = .importMeta := by
  rw [← or_and_right]
  simp only [and_assoc, ← and_or_left]
  refine and_congr_right ?_
  intro kind
  have rule : ofKind scope node = access node := by
    obtain kind | kind := kind <;> simp only [ofKind, kind]
  rw [rule, mem_access_iff]

/-- A number shows separators of its digits and the mark of a big integer. -/
theorem mem_ofKind_number_iff :
    node.kind = "number" ∧ feature ∈ ofKind scope node ↔
      (node.kind = "number" ∧ '_' ∈ node.chars) ∧ feature = .numericSeparators ∨
        (node.kind = "number" ∧ ∃ digits, node.chars = digits ++ ['n']) ∧ feature = .bigint := by
  by_cases kind : node.kind = "number"
  · have rule : ofKind scope node = number node := by simp only [ofKind, kind]
    rw [rule, number]
    simp [kind, List.getLast?_eq_some_iff]
  · simp [kind]

/-- A literal pattern shows what its pattern and its flags have. -/
theorem mem_ofKind_regex_iff :
    node.kind = "regex" ∧ feature ∈ ofKind scope node ↔
      node.kind = "regex" ∧ feature ∈ Pattern.features (Node.chars? (node.child? "pattern"))
        (Node.chars? (node.child? "flags")) := by
  refine and_congr_right ?_
  intro kind
  simp only [ofKind, kind, regex]

/-- A method shows class features if its name is private. -/
theorem mem_ofKind_method_iff :
    node.kind = "method_definition" ∧ .classFields ∈ ofKind scope node ↔
      node.kind = "method_definition" ∧ HasField node "name" "private_property_identifier" := by
  refine and_congr_right ?_
  intro kind
  have rule : ofKind scope node = method node := by simp only [ofKind, kind]
  unfold HasField
  rw [rule, method]
  cases node.child? "name" <;> simp [mem_modifiers_iff]

/-- A meta property shows the properties of an import if it has the token. -/
theorem mem_ofKind_metaProperty_iff :
    node.kind = "meta_property" ∧ .importMeta ∈ ofKind scope node ↔
      node.kind = "meta_property" ∧ node.hasChild "import" = true := by
  refine and_congr_right ?_
  intro kind
  simp [ofKind, kind]

/-- A catch clause shows that its binding is optional if it has none. -/
theorem mem_ofKind_catch_iff :
    node.kind = "catch_clause" ∧ .optionalCatchBinding ∈ ofKind scope node ↔
      node.kind = "catch_clause" ∧ node.child? "parameter" = none := by
  refine and_congr_right ?_
  intro kind
  simp [ofKind, kind]

/-! ## The sources of a feature -/

/-- A node whose kind is no source's shows nothing of the feature. -/
theorem mem_ofKind_iff_listed :
    feature ∈ ofKind scope node ↔
      node.kind ∈ sourceKinds feature ∧ feature ∈ ofKind scope node := by
  rw [iff_and_self]
  exact sourced_ofKind scope node feature

/-- A feature with one kind of source is shown by nodes of that kind alone. -/
theorem one_source {kind : String} (sources : sourceKinds feature = [kind]) :
    feature ∈ ofKind scope node ↔ node.kind = kind ∧ feature ∈ ofKind scope node := by
  refine mem_ofKind_iff_listed.trans ?_
  rw [sources, List.mem_singleton]

/-- A feature with two kinds of sources is shown by nodes of these kinds alone. -/
theorem two_sources {first second : String} (sources : sourceKinds feature = [first, second]) :
    feature ∈ ofKind scope node ↔
      node.kind = first ∧ feature ∈ ofKind scope node ∨
        node.kind = second ∧ feature ∈ ofKind scope node := by
  refine mem_ofKind_iff_listed.trans ?_
  rw [sources, List.mem_cons, List.mem_singleton, or_and_right]

/-- A feature with three kinds of sources is shown by nodes of these kinds alone. -/
theorem three_sources {first second third : String}
    (sources : sourceKinds feature = [first, second, third]) :
    feature ∈ ofKind scope node ↔
      node.kind = first ∧ feature ∈ ofKind scope node ∨
        node.kind = second ∧ feature ∈ ofKind scope node ∨
          node.kind = third ∧ feature ∈ ofKind scope node := by
  refine mem_ofKind_iff_listed.trans ?_
  rw [sources, List.mem_cons, List.mem_cons, List.mem_singleton, or_and_right, or_and_right]

/-- Where a regular expression is no source, none shows the feature. -/
theorem not_mem_regexpConstructor (unlisted : "regex" ∉ sourceKinds feature) (args : List Node) :
    feature ∉ regexpConstructor args := by
  intro shown
  exact unlisted (sourced_pattern _ _ (by decide) feature shown)

/-- A feature of calls alone is shown by the sources that are listed for it. -/
theorem call_iff_shows (sources : sourceKinds feature = ["call_expression"]) :
    feature ∈ ofKind scope node ↔ Shows scope node feature := by
  have none : ∀ args, feature ∉ regexpConstructor args :=
    not_mem_regexpConstructor (by simp [sources])
  rw [one_source sources, mem_ofKind_call_iff]
  -- Only the features that calls alone show are left; each has its entries in the table.
  cases feature <;> simp [sourceKinds] at sources
  all_goals simp [Shows, staticCalls, none, and_or_left, exists_or, or_assoc]

/-- A feature of constructions alone is shown by the sources that are listed for it. -/
theorem construction_iff_shows (sources : sourceKinds feature = ["new_expression"]) :
    feature ∈ ofKind scope node ↔ Shows scope node feature := by
  have none : ∀ args, feature ∉ regexpConstructor args :=
    not_mem_regexpConstructor (by simp [sources])
  rw [one_source sources, mem_ofKind_construction_iff]
  cases feature <;> simp [sourceKinds] at sources
  all_goals simp [Shows, constructions, none, and_or_left, exists_or]

/-- A feature of calls and constructions is shown by the sources that are listed for it. -/
theorem application_iff_shows
    (sources : sourceKinds feature = ["call_expression", "new_expression"]) :
    feature ∈ ofKind scope node ↔ Shows scope node feature := by
  have none : ∀ args, feature ∉ regexpConstructor args :=
    not_mem_regexpConstructor (by simp [sources])
  rw [two_sources sources, mem_ofKind_call_iff, mem_ofKind_construction_iff]
  cases feature <;> simp [sourceKinds] at sources
  all_goals simp [Shows, staticCalls, constructions, none, or_and_right, and_or_left, exists_or]

/-- Big integers are shown by a literal with the mark and by a call of `BigInt` with a literal. -/
theorem bigint_iff_shows : .bigint ∈ ofKind scope node ↔ Shows scope node .bigint := by
  have none : ∀ args, .bigint ∉ regexpConstructor args := not_mem_regexpConstructor (by decide)
  rw [two_sources rfl, mem_ofKind_number_iff, mem_ofKind_call_iff]
  simp [Shows, staticCalls, none]

/-- Patterns are inspected in literals and in both uses of their constructor. -/
theorem inspectsWith_iff :
    InspectsWith node feature ↔
      node.kind = "regex" ∧ feature ∈ Pattern.features (Node.chars? (node.child? "pattern"))
          (Node.chars? (node.child? "flags")) ∨
        Calls node "RegExp" ∧ feature ∈ regexpConstructor (arguments node) ∨
          Constructs node "RegExp" ∧ feature ∈ regexpConstructor (arguments node) := by
  constructor
  · rintro ⟨pattern, flags, inspects, shown⟩
    cases inspects with
    | literal kind => exact Or.inl ⟨kind, shown⟩
    | call calls => exact Or.inr (Or.inl ⟨calls, shown⟩)
    | construction constructs => exact Or.inr (Or.inr ⟨constructs, shown⟩)
  · rintro (⟨kind, shown⟩ | ⟨calls, shown⟩ | ⟨constructs, shown⟩)
    · exact ⟨_, _, .literal kind, shown⟩
    · exact ⟨_, _, .call calls, shown⟩
    · exact ⟨_, _, .construction constructs, shown⟩

/-- A feature of patterns is shown where a pattern is inspected that has it. -/
theorem regex_iff_shows
    (sources : sourceKinds feature = ["regex", "call_expression", "new_expression"]) :
    feature ∈ ofKind scope node ↔ InspectsWith node feature := by
  rw [three_sources sources, mem_ofKind_regex_iff, mem_ofKind_call_iff, mem_ofKind_construction_iff,
    inspectsWith_iff]
  -- No feature of regular expressions stands in the tables of calls and of constructions.
  cases feature <;> simp [sourceKinds] at sources
  all_goals simp [staticCalls, constructions]

/-- The global object is shown by the sources that are listed for it. -/
theorem globalThis_iff_shows : .globalThis ∈ ofKind scope node ↔ Shows scope node .globalThis := by
  rw [two_sources rfl, mem_ofKind_access_iff]
  simp [Shows]

/-- The properties of an import are shown by the sources that are listed for them. -/
theorem importMeta_iff_shows : .importMeta ∈ ofKind scope node ↔ Shows scope node .importMeta := by
  rw [three_sources rfl, mem_ofKind_metaProperty_iff, mem_ofKind_access_iff]
  simp [Shows]

/-- Class features are shown by the sources that are listed for them. -/
theorem classFields_iff_shows :
    .classFields ∈ ofKind scope node ↔ Shows scope node .classFields := by
  rw [two_sources rfl, mem_ofKind_method_iff]
  refine or_congr_left (and_iff_left_of_imp ?_)
  intro kind
  simp [ofKind, kind]

/-- Some features are shown by every node of some kinds. -/
theorem bare_iff_listed
    (bare : feature ∈ [Feature.restSpreadProperties, .optionalChaining, .classStaticBlock,
      .hashbangGrammar]) :
    feature ∈ ofKind scope node ↔ node.kind ∈ sourceKinds feature := by
  rw [mem_ofKind_iff_listed, and_iff_left_iff_imp]
  intro listed
  simp only [List.mem_cons, List.not_mem_nil, or_false] at bare
  obtain rfl | rfl | rfl | rfl := bare
  all_goals simp only [sourceKinds, List.mem_cons, List.not_mem_nil, or_false] at listed
  · obtain kind | kind := listed <;> simp [ofKind, kind]
  · simp [ofKind, listed]
  · simp [ofKind, listed]
  · obtain kind | kind | kind := listed <;> simp [ofKind, kind]

/-- A node shows a feature if and only if it is one of the feature's sources. -/
theorem mem_ofKind_iff_shows (scope : Scope) (node : Node) (feature : Feature) :
    feature ∈ ofKind scope node ↔ Shows scope node feature := by
  cases feature
  case asyncFunctions =>
    simp only [asyncFunctions_mem_ofKind_iff, isFunction_iff, Shows, IsAsync]
  case asyncIteration =>
    simp only [asyncIteration_mem_ofKind_iff, isFunction_iff, Shows, IsAsync, IsAwaitingLoop,
      and_assoc]
  case topLevelAwait =>
    simp only [topLevelAwait_mem_ofKind_iff, Shows, IsAwaitingLoop]
  case exponentiationOperator =>
    rw [two_sources rfl, mem_ofKind_binary_iff, mem_ofKind_assignment_iff]
    simp [Shows]
  case nullishCoalescingOperator | privateFieldBrandChecks =>
    rw [one_source rfl, mem_ofKind_binary_iff]
    simp [Shows]
  case logicalAssignmentOperators =>
    rw [one_source rfl, mem_ofKind_assignment_iff]
    simp [Shows]
  case objectValuesEntries | objectGetOwnPropertyDescriptors | objectFromEntries | objectHasOwn |
      promiseAllSettled | promiseAny | promiseWithResolvers | promiseTry | atomicsWaitAsync |
      regexpEscape | arrayGrouping | dynamicImport =>
    exact call_iff_shows rfl
  case sharedMemoryAndAtomics | weakReferences | resizableArrayBuffers =>
    exact construction_iff_shows rfl
  case errorCause | float16Array => exact application_iff_shows rfl
  case regexpDotAllFlag | regexpLookbehindAssertions | regexpUnicodePropertyEscapes |
      regexpNamedCaptureGroups | regexpMatchIndices | regexpVFlag | duplicateNamedCaptureGroups |
      regexpModifiers =>
    exact regex_iff_shows rfl
  case bigint => exact bigint_iff_shows
  case numericSeparators =>
    rw [one_source rfl, mem_ofKind_number_iff]
    simp [Shows]
  case forInMechanics =>
    rw [one_source rfl]
    refine and_congr_right ?_
    intro kind
    simp [ofKind_forIn kind, mem_forIn_iff]
  case optionalCatchBinding => exact (one_source rfl).trans mem_ofKind_catch_iff
  case globalThis => exact globalThis_iff_shows
  case importMeta => exact importMeta_iff_shows
  case classFields => exact classFields_iff_shows
  case restSpreadProperties | optionalChaining | classStaticBlock | hashbangGrammar =>
    rw [bare_iff_listed (by decide)]
    simp [sourceKinds, Shows]

end Rule

namespace Finder

open EcmaEdition.Rule

/-- A feature is found in a tree if and only if one of its sources occurs at a named node. -/
theorem sources_exact (tree : Node) (feature : Feature) :
    feature ∈ find tree ↔
      ∃ site ∈ tree.sites, site.node.named = true ∧
        Shows (Scope.outermost.within site.above) site.node feature := by
  simp only [mem_find_iff, mem_ofKind_iff_shows]

end Finder

end EcmaEdition
