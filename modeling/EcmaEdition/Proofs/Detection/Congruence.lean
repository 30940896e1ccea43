import EcmaEdition.Proofs.Detection.Argument
import EcmaEdition.Proofs.Detection.Spelling

/-!
# Detection on edited trees

Every rule asks its node and the nodes a few steps below for kinds, texts, fields and tokens, and
goes through arguments, members and parts of strings. A harmless edit changes none of the answers,
so each rule says the same before and after it, and so does the visit of the whole tree
(`find_of_edited`). The lemmas follow the definitions of literals and of the rules one by one: when
a rule comes to look at something else, its lemma is the one to change.
-/

set_option autoImplicit false

namespace EcmaEdition

namespace Literal

/-! ## Lists without comments -/

/-- A search that passes by comments is a search among the plain children. -/
theorem any_namedChildren (node : Node) {p : Node → Bool}
    (blind : ∀ child : Node, child.kind = "comment" → p child = false) :
    node.namedChildren.any p = (Node.plain node.children).any p := by
  unfold Node.namedChildren Node.plain
  rw [List.any_filter, List.any_filter]
  congr 1
  funext child
  unfold Node.isPlain
  by_cases comment : child.kind = "comment"
  · rw [blind child comment, Bool.and_false, Bool.and_false]
  · have other : (child.kind != "comment") = true := by simpa using comment
    rw [other, Bool.and_true]

/-- What comments add nothing to is put together from the plain children. -/
theorem flatMap_namedChildren (node : Node) {f : Node → List Char}
    (blind : ∀ child : Node, child.kind = "comment" → f child = []) :
    node.namedChildren.flatMap f = (Node.plain node.children).flatMap f := by
  unfold Node.namedChildren Node.plain
  induction node.children with
  | nil => rfl
  | cons child rest ih =>
    by_cases named : child.named = true
    · by_cases comment : child.kind = "comment"
      · simp [Node.isPlain, named, comment, blind child comment, ih]
      · simp [Node.isPlain, named, comment, ih]
    · simp [Node.isPlain, named, ih]

/-- The value of a literal depends on its kind, its text and its plain children. -/
theorem stringValue?_eq (node : Node) :
    stringValue? node =
      if node.kind ≠ "string" ∧ node.kind ≠ "template_string" then none
      else if (Node.plain node.children).any (·.kind == "template_substitution") then none
      else if node.kind = "template_string" &&
          !(Node.plain node.children).any (·.kind == "string_fragment") then
        some (node.chars.drop 1).dropLast
      else some ((Node.plain node.children).flatMap partValue) := by
  have other : ∀ kind : String, kind ≠ "comment" →
      ∀ child : Node, child.kind = "comment" → (child.kind == kind) = false := by
    intro kind differs child comment
    rw [comment]
    exact beq_false_of_ne differs.symm
  have noPart : ∀ child : Node, child.kind = "comment" → partValue child = [] := by
    intro child comment
    simp [partValue, comment]
  simp only [stringValue?, any_namedChildren node (other "template_substitution" (by decide)),
    any_namedChildren node (other "string_fragment" (by decide)),
    flatMap_namedChildren node noPart]

section

variable {edit : Node.Edit} {a b : Node} (harmless : edit.Harmless) (edited : Node.Edited edit a b)
include harmless edited

/-! ## Literals -/

omit harmless in
/-- A part of a text has the value that it has before the edit. -/
theorem partValue_of_edited : partValue a = partValue b := by
  unfold partValue
  rw [edited.kind_eq, edited.chars_eq]

/-- A constant text has the value that it has before the edit. -/
theorem stringValue?_of_edited : stringValue? a = stringValue? b := by
  rw [stringValue?_eq, stringValue?_eq, edited.kind_eq, edited.chars_eq]
  by_cases other : b.kind ≠ "string" ∧ b.kind ≠ "template_string"
  · rw [if_pos other, if_pos other]
  · have looked : a.kind ∉ Node.sequenceKinds := by
      rw [edited.kind_eq]
      intro sequence
      have listed : ∀ kind ∈ Node.sequenceKinds, kind ≠ "string" ∧ kind ≠ "template_string" := by
        decide
      exact other (listed b.kind sequence)
    have parts := edited.plain_children harmless looked
    have sameKind : ∀ kind : String, ∀ x y : Node, Node.Edited edit x y →
        (x.kind == kind) = (y.kind == kind) := by
      intro kind x y related
      rw [related.kind_eq]
    have values : (Node.plain a.children).map partValue = (Node.plain b.children).map partValue :=
      Node.map_eq_of_forall₂ (fun _ _ related => partValue_of_edited related) parts
    rw [Node.any_eq_of_forall₂ (sameKind "template_substitution") parts,
      Node.any_eq_of_forall₂ (sameKind "string_fragment") parts, List.flatMap_def,
      List.flatMap_def, values]

/-- The name of a key is the same before and after an edit. -/
theorem keyName?_of_edited : keyName? a = keyName? b := by
  unfold keyName?
  rw [edited.kind_eq, edited.chars_eq, stringValue?_of_edited harmless edited]

/-- An edited member has the keys that it had. -/
theorem memberHasKey_of_edited (key : List Char) : memberHasKey key a = memberHasKey key b := by
  unfold memberHasKey
  rw [edited.kind_eq, edited.chars_eq]
  by_cases pair : b.kind = "pair"
  · have looked := edited.kind_not_mem pair (by decide)
    rw [if_pos pair, if_pos pair]
    obtain ⟨ha, hb⟩ | ⟨x, y, ha, hb, name⟩ := edited.child?_cases harmless looked "key"
    · rw [ha, hb]
    · rw [ha, hb]
      simp only [keyName?_of_edited harmless name]
  · rw [if_neg pair, if_neg pair]

/-- An edited object has the keys that it had. -/
theorem objectHasKey_of_edited (key : List Char) : objectHasKey a key = objectHasKey b key := by
  have blind : ∀ child : Node, child.kind = "comment" → memberHasKey key child = false := by
    intro child comment
    simp [memberHasKey, comment]
  unfold objectHasKey
  rw [any_namedChildren a blind, any_namedChildren b blind, edited.kind_eq]
  by_cases object : b.kind = "object"
  · have looked := edited.kind_not_mem object (by decide)
    have members : (Node.plain a.children).any (memberHasKey key) =
        (Node.plain b.children).any (memberHasKey key) :=
      Node.any_eq_of_forall₂ (fun _ _ member => memberHasKey_of_edited harmless member key)
        (edited.plain_children harmless looked)
    rw [members]
  · simp [object]

/-- The arguments of an edited call are the edited ones, each at its place. -/
theorem arguments_of_edited (looked : a.kind ∉ Node.sequenceKinds) :
    List.Forall₂ (Node.Edited edit) (arguments a) (arguments b) := by
  obtain ⟨ha, hb⟩ | ⟨x, y, ha, hb, list⟩ := edited.child?_cases harmless looked "arguments"
  · simp [arguments, ha, hb]
  · by_cases kind : y.kind = "arguments"
    · have same : x.kind = "arguments" := list.kind_eq.trans kind
      rw [Rule.arguments_eq_plain ha same, Rule.arguments_eq_plain hb kind]
      exact list.plain_children harmless (list.kind_not_mem kind (by decide))
    · have other : ¬x.kind = "arguments" := by rwa [list.kind_eq]
      simp [arguments, ha, hb, kind, other]

end

end Literal

namespace Rule

open EcmaEdition.Literal

/-! ## Rules about arguments -/

section

variable {edit : Node.Edit} {xs ys : List Node} (harmless : edit.Harmless)
  (args : List.Forall₂ (Node.Edited edit) xs ys)
include harmless args

/-- Edited arguments have the same constant text at every place. -/
theorem bind_stringValue?_of_edited (place : Nat) :
    xs[place]?.bind stringValue? = ys[place]?.bind stringValue? := by
  obtain ⟨ha, hb⟩ | ⟨x, y, ha, hb, argument⟩ := Node.getElem?_of_forall₂ args place
  · rw [ha, hb]
  · rw [ha, hb]
    exact stringValue?_of_edited harmless argument

/-- Edited arguments have the same keys at every place. -/
theorem argumentHasKey_of_edited (place : Nat) (key : String) :
    argumentHasKey xs place key = argumentHasKey ys place key := by
  unfold argumentHasKey
  obtain ⟨ha, hb⟩ | ⟨x, y, ha, hb, argument⟩ := Node.getElem?_of_forall₂ args place
  · rw [ha, hb]
  · rw [ha, hb]
    exact objectHasKey_of_edited harmless argument key.toList

/-- A constructor that may be called shows the same for edited arguments. -/
theorem sharedConstructor_of_edited (name : String) :
    sharedConstructor name xs = sharedConstructor name ys := by
  unfold sharedConstructor regexpConstructor errorCause
  simp only [bind_stringValue?_of_edited harmless args, argumentHasKey_of_edited harmless args]

/-- A call of a plain name shows the same for edited arguments. -/
theorem namedCall_of_edited (name : String) : namedCall name xs = namedCall name ys := by
  unfold namedCall
  rw [sharedConstructor_of_edited harmless args]
  obtain ⟨ha, hb⟩ | ⟨x, y, ha, hb, operand⟩ := Node.getElem?_of_forall₂ args 0
  · rw [ha, hb]
  · rw [ha, hb]
    simp only [operand.kind_eq]

end

/-! ## Rules about nodes -/

section

variable {edit : Node.Edit} {a b : Node} (harmless : edit.Harmless) (edited : Node.Edited edit a b)
  (looked : a.kind ∉ Node.sequenceKinds)
include harmless edited looked

/-- An edit keeps what the modifiers of a function show. -/
theorem modifiers_of_edited : modifiers a = modifiers b := by
  unfold modifiers
  rw [edited.hasChild_eq harmless looked (by decide), edited.kindOpensWith_eq,
    edited.hasChild_eq harmless looked (by decide)]

/-- An edit keeps what a method definition shows. -/
theorem method_of_edited : method a = method b := by
  unfold method
  rw [modifiers_of_edited harmless edited looked]
  obtain ⟨ha, hb⟩ | ⟨x, y, ha, hb, name⟩ := edited.child?_cases harmless looked "name"
  · rw [ha, hb]
  · rw [ha, hb]
    simp only [name.kind_eq]

/-- An edit keeps what a binary expression shows. -/
theorem binary_of_edited : binary a = binary b := by
  unfold binary
  obtain ⟨ha, hb⟩ | ⟨x, y, ha, hb, operator⟩ := edited.child?_cases harmless looked "operator"
  · rw [ha, hb]
  · rw [ha, hb]
    simp only [operator.kind_eq]
    obtain ⟨ha, hb⟩ | ⟨x, y, ha, hb, left⟩ := edited.child?_cases harmless looked "left"
    · rw [ha, hb]
    · rw [ha, hb]
      simp only [left.kind_eq]

/-- An edit keeps what an assignment with an operator shows. -/
theorem augmentedAssignment_of_edited : augmentedAssignment a = augmentedAssignment b := by
  unfold augmentedAssignment
  obtain ⟨ha, hb⟩ | ⟨x, y, ha, hb, operator⟩ := edited.child?_cases harmless looked "operator"
  · rw [ha, hb]
  · rw [ha, hb]
    simp only [operator.kind_eq]

/-- An edit keeps what an access to a member shows. -/
theorem access_of_edited : access a = access b := by
  unfold access
  obtain ⟨ha, hb⟩ | ⟨x, y, ha, hb, receiver⟩ := edited.child?_cases harmless looked "object"
  · rw [ha, hb]
  · rw [ha, hb]
    simp only [receiver.kind_eq, receiver.string_eq]

/-- An edit keeps what a literal pattern shows. -/
theorem regex_of_edited : regex a = regex b := by
  have text : ∀ field, Node.chars? (a.child? field) = Node.chars? (b.child? field) := by
    intro field
    obtain ⟨ha, hb⟩ | ⟨x, y, ha, hb, part⟩ := edited.child?_cases harmless looked field
    · rw [ha, hb]
    · rw [ha, hb]
      exact part.chars_eq
  unfold regex
  rw [text, text]

/-- An edit keeps what a loop over members shows. -/
theorem forIn_of_edited (scope : Scope) : forIn scope a = forIn scope b := by
  unfold forIn
  rw [edited.hasChild_eq harmless looked (by decide),
    edited.hasChild_eq harmless looked (by decide)]

/-- An edit keeps what a call of a member shows. -/
theorem memberCall_of_edited : memberCall a = memberCall b := by
  unfold memberCall
  obtain ⟨ha, hb⟩ | ⟨x, y, ha, hb, receiver⟩ := edited.child?_cases harmless looked "object"
  · rw [ha, hb]
  · rw [ha, hb]
    obtain ⟨ha, hb⟩ | ⟨x, y, ha, hb, member⟩ := edited.child?_cases harmless looked "property"
    · rw [ha, hb]
    · rw [ha, hb]
      simp only [receiver.kind_eq, receiver.string_eq, member.kind_eq, member.string_eq]

/-- An edit keeps what a call shows. -/
theorem call_of_edited : call a = call b := by
  have args := arguments_of_edited harmless edited looked
  unfold call
  obtain ⟨ha, hb⟩ | ⟨x, y, ha, hb, callee⟩ := edited.child?_cases harmless looked "function"
  · rw [ha, hb]
  · rw [ha, hb]
    simp only [callee.kind_eq, callee.string_eq, namedCall_of_edited harmless args]
    by_cases member : y.kind = "member_expression"
    · have looked := callee.kind_not_mem member (by decide)
      rw [memberCall_of_edited harmless callee looked]
    · simp only [member, if_false]

/-- An edit keeps what a construction shows. -/
theorem construction_of_edited : construction a = construction b := by
  have args := arguments_of_edited harmless edited looked
  unfold construction
  obtain ⟨ha, hb⟩ | ⟨x, y, ha, hb, callee⟩ := edited.child?_cases harmless looked "constructor"
  · rw [ha, hb]
  · rw [ha, hb]
    simp only [callee.kind_eq, callee.string_eq, argumentHasKey_of_edited harmless args,
      sharedConstructor_of_edited harmless args]

end

/-! ## All rules -/

section

variable {edit : Node.Edit} {a b : Node} (harmless : edit.Harmless) (edited : Node.Edited edit a b)
  (scope : Scope)
include edited

/-- An edit keeps the scope of what is below a node. -/
theorem below_of_edited : scope.below a = scope.below b := by
  unfold Scope.below isFunction
  rw [edited.kind_eq]

include harmless

/-- A node shows the same by itself before and after a harmless edit. -/
theorem ofKind_of_edited : ofKind scope a = ofKind scope b := by
  by_cases looked : a.kind ∈ Node.sequenceKinds
  · -- the children may have changed places, but no rule is for sequences
    have listed : ∀ kind ∈ Node.sequenceKinds, Ruleless kind := by decide
    have bare : Ruleless a.kind := listed a.kind looked
    rw [ofKind_of_ruleless bare, ofKind_of_ruleless (edited.kind_eq ▸ bare)]
  · unfold ofKind
    rw [← edited.kind_eq]
    split
    -- one goal for each kind that has a rule, in the order of the rules
    iterate 3 rfl
    iterate 6 exact modifiers_of_edited harmless edited looked
    · exact method_of_edited harmless edited looked
    · rfl
    · rfl
    · rfl
    · exact binary_of_edited harmless edited looked
    · exact augmentedAssignment_of_edited harmless edited looked
    · rfl
    · exact call_of_edited harmless edited looked
    · exact construction_of_edited harmless edited looked
    · exact access_of_edited harmless edited looked
    · exact access_of_edited harmless edited looked
    · rw [edited.hasChild_eq harmless looked (by decide)]
    · unfold number
      rw [edited.chars_eq]
    · exact regex_of_edited harmless edited looked
    · rfl
    · rfl
    · exact forIn_of_edited harmless edited looked scope
    · obtain ⟨ha, hb⟩ | ⟨x, y, ha, hb, -⟩ := edited.child?_cases harmless looked "parameter"
      · rw [ha, hb]
      · rw [ha, hb]
        rfl
    · rfl

/-- An edit keeps all that a node shows by itself. -/
theorem features_of_edited : features scope a = features scope b := by
  unfold features
  rw [edited.named_eq, ofKind_of_edited harmless edited]

end

end Rule

namespace Finder

open EcmaEdition.Rule

variable {edit : Node.Edit}

/-! ## Whole trees -/

/-- A comment shows nothing. -/
theorem walk_of_isComment {node : Node} (comment : node.IsComment) (scope : Scope) :
    walk scope node = ∅ := by
  have bare : Ruleless "comment" := by decide
  rw [← comment.kind] at bare
  exact walk_of_bare_leaf comment.leaf (.inr bare) scope

/-- Lists of children show the same if the second has the nodes of the first, and comments
besides. -/
theorem unions_walk_of_step (harmless : edit.Harmless) {kind : String} {before after : List Node}
    (step : edit kind before after) (scope : Scope) :
    FeatureSet.unions (before.map (walk scope)) = FeatureSet.unions (after.map (walk scope)) := by
  apply FeatureSet.ext
  intro feature
  simp only [FeatureSet.mem_unions, List.mem_map, exists_exists_and_eq_and]
  constructor
  · rintro ⟨node, listed, shown⟩
    exact ⟨node, harmless.kept step node listed, shown⟩
  · rintro ⟨node, listed, shown⟩
    obtain old | comment := harmless.added step node listed
    · exact ⟨node, old, shown⟩
    · rw [walk_of_isComment comment] at shown
      exact absurd shown (FeatureSet.not_mem_empty feature)

/-- What is the same at each child before and after its own edit is the same along the children. -/
theorem map_eq_of_edited {γ : Type} {f : Node → γ} {children within : List Node}
    (below : List.Forall₂ (Node.Edited edit) children within)
    (same : ∀ child ∈ children, ∀ other, Node.Edited edit child other → f child = f other) :
    children.map f = within.map f := by
  induction below with
  | nil => rfl
  | cons head _ ih =>
    obtain ⟨first, rest⟩ := List.forall_mem_cons.mp same
    rw [List.map_cons, List.map_cons, first _ head, ih rest]

/-- A visit finds the same before and after a harmless edit. -/
theorem walk_of_edited (harmless : edit.Harmless) {a b : Node} (edited : Node.Edited edit a b)
    (scope : Scope) : walk scope a = walk scope b := by
  induction a using Node.induction generalizing b scope with
  | step a ih =>
    obtain ⟨within, below, step⟩ := edited.exists_within
    have children : a.children.map (walk (scope.below b)) = within.map (walk (scope.below b)) :=
      map_eq_of_edited below fun child listed _ inner => ih child listed inner (scope.below b)
    rw [walk_eq, walk_eq, features_of_edited harmless edited, below_of_edited edited, children,
      unions_walk_of_step harmless step]

/-- A harmless edit changes no feature of a program. -/
theorem find_of_edited (harmless : edit.Harmless) {a b : Node} (edited : Node.Edited edit a b) :
    find a = find b := by
  rw [find_eq_walk, find_eq_walk, walk_of_edited harmless edited]

end Finder

end EcmaEdition
