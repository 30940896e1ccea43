import EcmaEdition.Proofs.Detection.Spelling

/-!
# Regular expressions that are constructed

A regular expression may be written as a literal, or be made by `RegExp` from a pattern and flags,
with `new` or without. The three ways are inspected alike: an argument that spells a text stands for
the text, and an argument that is absent or no constant stands for the empty text. Punctuation and
comments between the arguments change nothing. What the arguments show by themselves is found as
well, and it comes on top (`constructor_like_literal`).
-/

set_option autoImplicit false

namespace EcmaEdition.Rule

open EcmaEdition.Literal

/-- A leaf between the arguments of a call: punctuation or a comment. -/
def IsTrivia (node : Node) : Prop :=
  node.children = [] ∧ (node.named = false ∨ node.kind = "comment")

/-- The children of an argument list: the arguments in order, and trivia anywhere. -/
inductive Lists : List Node → List Node → Prop where
  | nil : Lists [] []
  | trivia {node : Node} {rest arguments : List Node} (trivia : IsTrivia node)
      (lists : Lists rest arguments) : Lists (node :: rest) arguments
  | argument {node : Node} {rest arguments : List Node} (named : node.named = true)
      (kind : node.kind ≠ "comment") (lists : Lists rest arguments) :
      Lists (node :: rest) (node :: arguments)

/-- The two ways to apply a constructor: with `new` and as a function. -/
inductive Form where
  | construction | call
  deriving DecidableEq, Repr

/-- The kind of the node that applies a constructor. -/
def Form.kind : Form → String
  | .construction => "new_expression"
  | .call => "call_expression"

/-- The field of the constructor's name. -/
def Form.field : Form → String
  | .construction => "constructor"
  | .call => "function"

/-- An application has the arguments of its list, and none if it has no list. -/
inductive HasArguments (node : Node) : List Node → Prop where
  | absent (none : node.child? "arguments" = none) : HasArguments node []
  | present {list : Node} {arguments : List Node} (found : node.child? "arguments" = some list)
      (kind : list.kind = "arguments") (lists : Lists list.children arguments) :
      HasArguments node arguments

/-- A node applies `RegExp` to arguments. Beside the name and the list it has trivia alone. -/
structure Applies (form : Form) (node : Node) (arguments : List Node) : Prop where
  named : node.named = true
  kind : node.kind = form.kind
  callee : ∃ callee, node.child? form.field = some callee ∧ callee.kind = "identifier" ∧
    callee.Covers "RegExp".toList
  hasArguments : HasArguments node arguments
  others : ∀ child ∈ node.children, IsTrivia child ∨
    (node.child? form.field = some child ∧ child.children = []) ∨
      node.child? "arguments" = some child

/-- A literal has a pattern and flags; without flags, the node for them may be missing. -/
structure IsLiteral (node : Node) (pattern flags : List Char) : Prop where
  named : node.named = true
  kind : node.kind = "regex"
  pattern : ∃ child, node.child? "pattern" = some child ∧ child.Covers pattern
  flags : (∃ child, node.child? "flags" = some child ∧ child.Covers flags) ∨
    node.child? "flags" = none ∧ flags = []
  others : ∀ child ∈ node.children, child.children = [] ∧
    (child.named = false ∨ child.kind = "regex_pattern" ∨ child.kind = "regex_flags")

/-- A constant is a string, or a template in which nothing is substituted. -/
def IsConstant (node : Node) : Prop :=
  (node.kind = "string" ∨ node.kind = "template_string") ∧
    ∀ part ∈ node.children, part.named = true → part.kind ≠ "template_substitution"

/-- The text that an argument stands for. -/
inductive StandsFor : Option Node → List Char → Prop where
  | absent : StandsFor none []
  | computed {node : Node} (notConstant : ¬IsConstant node) : StandsFor (some node) []
  | spelled {node : Node} {text : List Char} (spells : Spells node text) :
    StandsFor (some node) text

/-! ## The arguments -/

/-- Without its tokens and comments, a list is its arguments. -/
theorem Lists.filter_eq {children args : List Node} (lists : Lists children args) :
    (children.filter Node.named).filter (·.kind != "comment") = args := by
  induction lists with
  | nil => rfl
  | @trivia node rest arguments trivia _ ih =>
    by_cases named : node.named = true
    · have comment : node.kind = "comment" := by simpa [named] using trivia.2
      rw [List.filter_cons_of_pos named, List.filter_cons_of_neg (by simp [comment]), ih]
    · rw [List.filter_cons_of_neg named, ih]
  | argument named kind _ ih =>
    rw [List.filter_cons_of_pos named, List.filter_cons_of_pos (by simpa using kind), ih]

/-- The arguments of an application are those that it is described with. -/
theorem arguments_eq {node : Node} {args : List Node} (has : HasArguments node args) :
    arguments node = args := by
  cases has with
  | absent none => rw [arguments, none]
  | present found kind lists =>
    rw [arguments, found]
    simp only [kind, if_true]
    exact lists.filter_eq

/-- What an argument is read as is what it stands for. -/
theorem getD_of_standsFor {argument : Option Node} {text : List Char}
    (stands : StandsFor argument text) : (argument.bind stringValue?).getD [] = text := by
  cases stands with
  | absent => rfl
  | spelled spells => rw [Option.bind_some, stringValue?_of_spells spells, Option.getD_some]
  | @computed node notConstant =>
    have unread : stringValue? node = none := by
      by_cases kind : node.kind = "string" ∨ node.kind = "template_string"
      · have substituted : node.namedChildren.any (·.kind == "template_substitution") = true := by
          by_contra none
          apply notConstant
          refine ⟨kind, ?_⟩
          intro part inside named substitution
          apply none
          rw [List.any_eq_true]
          exact ⟨part, List.mem_filter.mpr ⟨inside, named⟩, by simp [substitution]⟩
        simp [stringValue?, substituted]
      · simp [stringValue?, not_or.mp kind]
    rw [Option.bind_some, unread, Option.getD_none]

/-! ## The three ways -/

/-- An application of `RegExp` shows by itself what its arguments make. -/
theorem features_of_applies {form : Form} {node : Node} {args : List Node}
    (applies : Applies form node args) (scope : Scope) :
    features scope node = regexpConstructor args := by
  obtain ⟨callee, found, identifier, covers⟩ := applies.callee
  have name : callee.string = "RegExp" := by
    rw [Node.string, Node.chars_of_covers covers, String.ofList_toList]
  have kind := applies.kind
  rw [features, if_pos applies.named]
  cases form with
  | construction =>
    simp only [Form.kind, Form.field] at kind found
    simp only [ofKind, kind, construction, found, identifier, name,
      arguments_eq applies.hasArguments]
    simp [construction?, isBuffer, sharedConstructor, optional, FeatureSet.onlyIf]
  | call =>
    simp only [Form.kind, Form.field] at kind found
    simp only [ofKind, kind, call, found, identifier, name, arguments_eq applies.hasArguments]
    simp [namedCall, sharedConstructor]

/-- Tokens and comments show nothing. -/
theorem walk_of_trivia {node : Node} (trivia : IsTrivia node) (scope : Scope) :
    Finder.walk scope node = ∅ := by
  refine Finder.walk_of_bare_leaf trivia.1 (trivia.2.imp_right ?_) scope
  intro comment
  rw [comment]
  decide

/-- Trivia between the arguments show nothing. -/
theorem unions_walk_of_lists {children args : List Node} (lists : Lists children args)
    (scope : Scope) :
    FeatureSet.unions (children.map (Finder.walk scope)) =
      FeatureSet.unions (args.map (Finder.walk scope)) := by
  induction lists with
  | nil => rfl
  | trivia trivia _ ih =>
    rw [List.map_cons, FeatureSet.unions_cons, walk_of_trivia trivia, FeatureSet.empty_union, ih]
  | argument _ _ _ ih =>
    rw [List.map_cons, List.map_cons, FeatureSet.unions_cons, FeatureSet.unions_cons, ih]

/-- An argument list shows what its arguments show. -/
theorem walk_of_lists {list : Node} {args : List Node} (kind : list.kind = "arguments")
    (lists : Lists list.children args) (scope : Scope) :
    Finder.walk scope list = FeatureSet.unions (args.map (Finder.walk scope)) := by
  have ruleless : Ruleless list.kind := by
    rw [kind]
    decide
  have below : scope.below list = scope := by
    simp [Scope.below, isFunction, kind, functionKinds]
  rw [Finder.walk_of_ruleless ruleless, below, unions_walk_of_lists lists]

/-- The child of a field is one of the children. -/
theorem mem_children_of_child? {node child : Node} {field : String}
    (found : node.child? field = some child) : child ∈ node.children :=
  List.mem_of_find?_eq_some found

/-- Below an application nothing shows but what the arguments show. -/
theorem unions_children_of_applies {form : Form} {node : Node} {args : List Node}
    (applies : Applies form node args) (scope : Scope) :
    FeatureSet.unions (node.children.map (Finder.walk scope)) =
      FeatureSet.unions (args.map (Finder.walk scope)) := by
  obtain ⟨callee, isCallee, identifier, -⟩ := applies.callee
  apply FeatureSet.ext
  intro feature
  constructor
  · intro member
    obtain ⟨set, listed, inside⟩ := (FeatureSet.mem_unions _ _).mp member
    obtain ⟨child, isChild, rfl⟩ := List.mem_map.mp listed
    obtain trivia | ⟨found, leaf⟩ | found := applies.others child isChild
    · rw [walk_of_trivia trivia] at inside
      exact absurd inside (FeatureSet.not_mem_empty feature)
    · -- The name of the constructor is an identifier, which shows nothing.
      obtain rfl : callee = child := Option.some.inj (isCallee.symm.trans found)
      have ruleless : Ruleless callee.kind := by
        rw [identifier]
        decide
      rw [Finder.walk_of_bare_leaf leaf (.inr ruleless)] at inside
      exact absurd inside (FeatureSet.not_mem_empty feature)
    · cases applies.hasArguments with
      | absent none =>
        rw [none] at found
        cases found
      | present isList kind lists =>
        rw [isList] at found
        obtain rfl := Option.some.inj found
        rwa [walk_of_lists kind lists] at inside
  · intro member
    cases applies.hasArguments with
    | absent none => exact absurd member (FeatureSet.not_mem_empty feature)
    | @present list arguments isList kind lists =>
      rw [← walk_of_lists kind lists] at member
      exact (FeatureSet.mem_unions _ _).mpr
        ⟨_, List.mem_map_of_mem (mem_children_of_child? isList), member⟩

/-- An application shows what is made of its arguments and what they show. -/
theorem find_of_applies_arguments {form : Form} {node : Node} {args : List Node}
    (applies : Applies form node args) :
    Finder.find node = regexpConstructor args ∪ FeatureSet.unions (args.map Finder.find) := by
  have outer : Scope.outermost.below node = .outermost := by
    have kind := applies.kind
    cases form <;> simp [Form.kind] at kind <;> simp [Scope.below, isFunction, kind, functionKinds]
  rw [Finder.find_eq_walk, Finder.walk_eq, outer, unions_children_of_applies applies,
    features_of_applies applies]
  congr 2
  exact List.map_congr_left fun argument _ => (Finder.find_eq_walk argument).symm

/-- An application shows what its pattern and flags show and what its arguments show. -/
theorem find_of_applies {form : Form} {node : Node} {args : List Node} {pattern flags : List Char}
    (applies : Applies form node args) (hpattern : StandsFor args[0]? pattern)
    (hflags : StandsFor args[1]? flags) :
    Finder.find node =
      Pattern.features pattern flags ∪ FeatureSet.unions (args.map Finder.find) := by
  rw [find_of_applies_arguments applies, regexpConstructor, getD_of_standsFor hpattern,
    getD_of_standsFor hflags]

/-- A literal shows what its pattern and flags show. -/
theorem find_of_isLiteral {node : Node} {pattern flags : List Char}
    (literal : IsLiteral node pattern flags) :
    Finder.find node = Pattern.features pattern flags := by
  obtain ⟨body, isBody, coversPattern⟩ := literal.pattern
  have hflags : Node.chars? (node.child? "flags") = flags := by
    obtain ⟨child, found, covers⟩ | ⟨none, rfl⟩ := literal.flags
    · rw [found]
      exact Node.chars_of_covers covers
    · rw [none]
      rfl
  have own : features .outermost node = Pattern.features pattern flags := by
    rw [features, if_pos literal.named]
    simp only [ofKind, literal.kind]
    rw [regex, isBody, hflags]
    exact congrArg (Pattern.features · flags) (Node.chars_of_covers coversPattern)
  have below : FeatureSet.unions
      (node.children.map (Finder.walk (Scope.outermost.below node))) = ∅ := by
    apply FeatureSet.unions_map_eq_empty
    intro child isChild
    obtain ⟨leaf, kind⟩ := literal.others child isChild
    refine Finder.walk_of_bare_leaf leaf (kind.imp_right ?_) _
    rintro (kind | kind) <;> rw [kind] <;> decide
  rw [Finder.find_eq_walk, Finder.walk_eq, own, below, FeatureSet.union_empty]

/-! ## Nodes of each form -/

/-- An application of `RegExp` to what a list has. -/
def application (form : Form) (list : List Node) : Node :=
  ⟨{ kind := form.kind },
    [(Node.leaf "identifier" "RegExp".toList).withField form.field,
      ⟨{ kind := "arguments", field := some "arguments" }, list⟩]⟩

/-- A literal with a pattern and flags. -/
def literal (pattern flags : List Char) : Node :=
  ⟨{ kind := "regex" },
    [(Node.leaf "regex_pattern" pattern).withField "pattern",
      (Node.leaf "regex_flags" flags).withField "flags"]⟩

/-- An application that is built from a list applies the constructor to it. -/
theorem applies_application (form : Form) {list args : List Node} (lists : Lists list args) :
    Applies form (application form list) args where
  named := rfl
  kind := rfl
  callee := by cases form <;> exact ⟨_, rfl, rfl, Node.covers_leaf "identifier" _⟩
  hasArguments := by
    have found : (application form list).child? "arguments" =
        some ⟨{ kind := "arguments", field := some "arguments" }, list⟩ := by
      cases form <;> rfl
    exact .present found rfl lists
  others := by
    intro child isChild
    obtain rfl | isList := List.mem_cons.mp isChild
    · exact Or.inr (Or.inl ⟨by cases form <;> rfl, rfl⟩)
    · obtain rfl := List.mem_singleton.mp isList
      exact Or.inr (Or.inr (by cases form <;> rfl))

/-- A literal that is built from a pattern and flags is the literal of them. -/
theorem isLiteral_literal (pattern flags : List Char) :
    IsLiteral (literal pattern flags) pattern flags where
  named := rfl
  kind := rfl
  pattern := ⟨_, rfl, Node.covers_leaf "regex_pattern" _⟩
  flags := Or.inl ⟨_, rfl, Node.covers_leaf "regex_flags" _⟩
  others := by simp [literal, Node.withField, Node.leaf, Node.kind]

/-- Every text has a spelling, and every spelling of a text is read as the text and shows nothing by
itself. For all patterns and flags, `RegExp` applied to spellings of them, with `new` or without and
with comments anywhere in the list, shows the same features as the literal. If an argument is absent
or no constant it counts as empty, and what the arguments show by themselves comes on top. -/
theorem constructor_like_literal :
    (∀ text, Spells (spelling text) text) ∧
      (∀ node text, Spells node text → stringValue? node = some text ∧ Finder.find node = ∅) ∧
      ∀ pattern flags literal, IsLiteral literal pattern flags → ∀ form node,
        (∀ first second, Applies form node [first, second] → Spells first pattern →
          Spells second flags → Finder.find node = Finder.find literal) ∧
        ∀ args, Applies form node args → StandsFor args[0]? pattern → StandsFor args[1]? flags →
          Finder.find node = Finder.find literal ∪ FeatureSet.unions (args.map Finder.find) := by
  have bare : ∀ node text, Spells node text → Finder.find node = ∅ := by
    intro node text spells
    rw [Finder.find_eq_walk, walk_of_spells spells]
  refine ⟨spells_spelling, fun node text spells => ⟨stringValue?_of_spells spells, bare _ _ spells⟩,
    ?_⟩
  intro pattern flags literal isLiteral form node
  constructor
  · intro first second applies hfirst hsecond
    rw [find_of_applies applies (.spelled hfirst) (.spelled hsecond), find_of_isLiteral isLiteral,
      List.map_cons, List.map_singleton, bare _ _ hfirst, bare _ _ hsecond]
    simp
  · intro args applies hpattern hflags
    rw [find_of_applies applies hpattern hflags, find_of_isLiteral isLiteral]

/-- A lookbehind, in which a backslash has to be escaped. -/
def lookbehind : List Char := "(?<=\\d)".toList

/-- A comment between arguments. -/
def comment : Node := .leaf "comment" "/**/".toList

/-- An argument that is computed. -/
def power : Node :=
  ⟨{ kind := "binary_expression" },
    [⟨{ kind := "**", named := false, field := some "operator" }, []⟩]⟩

/-- A lookbehind and a flag are found in `new RegExp` with comments around the arguments as they are
in the literal. If the flags are computed, they are not found, but what the computation shows is. -/
theorem constructor_like_literal_lookbehind :
    Finder.find
        (application .construction [comment, spelling lookbehind, comment, spelling ['s']]) =
        Finder.find (literal lookbehind ['s']) ∧
      Finder.find (application .call [spelling lookbehind, power]) =
        Finder.find (literal lookbehind []) ∪ {Feature.exponentiationOperator} := by
  have trivia : IsTrivia comment := ⟨rfl, Or.inr rfl⟩
  have commented : Lists [comment, spelling lookbehind, comment, spelling ['s']]
      [spelling lookbehind, spelling ['s']] :=
    .trivia trivia (.argument rfl (by decide) (.trivia trivia (.argument rfl (by decide) .nil)))
  have computed : Lists [spelling lookbehind, power] [spelling lookbehind, power] :=
    .argument rfl (by decide) (.argument rfl (by decide) .nil)
  have own : FeatureSet.unions ([spelling lookbehind, power].map Finder.find) =
      {Feature.exponentiationOperator} := by
    rw [List.map_cons, List.map_singleton, Finder.find_eq_walk, Finder.find_eq_walk,
      walk_of_spells (spells_spelling lookbehind)]
    decide
  have notConstant : ¬IsConstant power := by
    rintro ⟨kind | kind, -⟩ <;> exact absurd kind (by decide)
  have alike := constructor_like_literal.2.2 lookbehind
  refine ⟨(alike ['s'] _ (isLiteral_literal _ _) _ _).1 _ _
    (applies_application .construction commented) (spells_spelling _) (spells_spelling _), ?_⟩
  rw [← own]
  exact (alike [] _ (isLiteral_literal _ _) _ _).2 _ (applies_application .call computed)
    (.spelled (spells_spelling _)) (.computed notConstant)

end EcmaEdition.Rule
