import EcmaEdition.Proofs.Detection.Options

/-!
# Members of an object

In the language an object gets a key by a pair, by a shorthand, or by a method of that name, and
getters and setters, generators and asynchronous methods are methods too. An object that is asked
for a key looks at the pairs and shorthands among its members and passes over the methods. So it has
the key just if some member that is no method defines it (`keys_exact`), and an error whose cause is
given by a getter shows no cause.
-/

set_option autoImplicit false

namespace EcmaEdition.Rule

open EcmaEdition.Literal

/-- A name of a member is a key: it is an identifier with the key as its text, or a string with the
key as its value. -/
inductive NamesKey (key : String) (name : Node) : Prop where
  | identifier (kind : name.kind = "property_identifier") (text : name.chars = key.toList)
  | string (kind : name.kind = "string") (value : stringValue? name = some key.toList)

/-- A member defines a key of its object: as a pair under this key, as its shorthand, or as a method
of this name. -/
inductive DefinesKey (key : String) (member : Node) : Prop where
  | pair {name : Node} (kind : member.kind = "pair") (found : member.child? "key" = some name)
      (names : NamesKey key name) : DefinesKey key member
  | shorthand (kind : member.kind = "shorthand_property_identifier")
      (text : member.chars = key.toList) : DefinesKey key member
  | method {name : Node} (kind : member.kind = "method_definition")
      (found : member.child? "name" = some name) (names : NamesKey key name) : DefinesKey key member

/-- A pair under a shorthand, which is no form of the language. -/
def IsStray (key : String) (member : Node) : Prop :=
  member.kind = "pair" ∧ ∃ name, member.child? "key" = some name ∧
    name.kind = "shorthand_property_identifier" ∧ name.chars = key.toList

/-- A member by which an object is found to have a key. -/
def ShowsKey (key : String) (member : Node) : Prop :=
  DefinesKey key member ∧ member.kind ≠ "method_definition" ∨ IsStray key member

variable {key : String} {member name node : Node}

/-- A name spells a key if it names it in the language, or is a shorthand of it. -/
theorem spellsKey_iff : SpellsKey key name ↔
    NamesKey key name ∨ name.kind = "shorthand_property_identifier" ∧ name.chars = key.toList := by
  constructor
  · intro spells
    cases spells with
    | identifier kind text => exact Or.inl (.identifier kind text)
    | shorthand kind text => exact Or.inr ⟨kind, text⟩
    | string kind value => exact Or.inl (.string kind value)
  · rintro (names | ⟨kind, text⟩)
    · cases names with
      | identifier kind text => exact .identifier kind text
      | string kind value => exact .string kind value
    · exact .shorthand kind text

/-- The members that give an object a key are those that show it. -/
theorem givesKey_iff_showsKey : GivesKey key member ↔ ShowsKey key member := by
  constructor
  · intro gives
    cases gives with
    | pair kind found spells =>
      obtain names | ⟨shorthand, text⟩ := spellsKey_iff.mp spells
      · exact Or.inl ⟨.pair kind found names, by simp [kind]⟩
      · exact Or.inr ⟨kind, _, found, shorthand, text⟩
    | shorthand kind text => exact Or.inl ⟨.shorthand kind text, by simp [kind]⟩
  · rintro (⟨defines, noMethod⟩ | ⟨kind, name, found, shorthand⟩)
    · cases defines with
      | pair kind found names => exact .pair kind found (spellsKey_iff.mpr (Or.inl names))
      | shorthand kind text => exact .shorthand kind text
      | method kind => exact absurd kind noMethod
    · exact .pair kind found (spellsKey_iff.mpr (Or.inr shorthand))

/-- An object is found to have a key if one of its members shows it. -/
theorem objectHasKey_iff_showsKey : objectHasKey node key.toList = true ↔
    node.kind = "object" ∧ ∃ member ∈ node.namedChildren, ShowsKey key member := by
  simp [objectHasKey, memberHasKey_iff_givesKey, givesKey_iff_showsKey]

/-- A method shows no key. -/
theorem not_showsKey_of_method (kind : member.kind = "method_definition") :
    ¬ShowsKey key member := by
  rintro (⟨-, noMethod⟩ | ⟨pair, -⟩)
  · exact noMethod kind
  · exact absurd (kind.symm.trans pair) (by decide)

/-- An object without its methods. -/
def withoutMethods (node : Node) : Node :=
  ⟨node.label, node.children.filter (·.kind != "method_definition")⟩

/-- Taking the methods away changes no key that an object is found to have. -/
theorem objectHasKey_withoutMethods (node : Node) :
    objectHasKey (withoutMethods node) key.toList = objectHasKey node key.toList := by
  rw [Bool.eq_iff_iff, objectHasKey_iff_showsKey, objectHasKey_iff_showsKey]
  refine and_congr Iff.rfl ⟨?_, ?_⟩
  · rintro ⟨member, listed, shows⟩
    obtain ⟨kept, named⟩ := List.mem_filter.mp listed
    exact ⟨member, List.mem_filter.mpr ⟨(List.mem_filter.mp kept).1, named⟩, shows⟩
  · rintro ⟨member, listed, shows⟩
    obtain ⟨inside, named⟩ := List.mem_filter.mp listed
    have noMethod : (member.kind != "method_definition") = true := by
      rw [bne_iff_ne]
      exact fun kind => not_showsKey_of_method kind shows
    exact ⟨member, List.mem_filter.mpr ⟨List.mem_filter.mpr ⟨inside, noMethod⟩, named⟩, shows⟩

/-- In an object of the language, a member shows a key if it defines the key and is no method. -/
theorem exists_showsKey_iff (noStray : ∀ member ∈ node.namedChildren, ¬IsStray key member) :
    (∃ member ∈ node.namedChildren, ShowsKey key member) ↔
      ∃ member ∈ node.namedChildren,
        DefinesKey key member ∧ member.kind ≠ "method_definition" := by
  constructor
  · rintro ⟨member, listed, defines | stray⟩
    · exact ⟨member, listed, defines⟩
    · exact absurd stray (noStray member listed)
  · rintro ⟨member, listed, defines⟩
    exact ⟨member, listed, Or.inl defines⟩

/-- An object shows a key if and only if a named member of it shows the key; so an object of the
language shows the keys that its members define otherwise than as methods, and no key appears or
vanishes when the methods are taken out. It has all keys that its members define if each key of a
method is also defined otherwise. An error constructor, called or constructed with the object at the
place of its options, shows a cause just if the object shows this key. -/
theorem keys_exact (key : String) (node : Node) :
    (objectHasKey node key.toList = true ↔
        node.kind = "object" ∧ ∃ member ∈ node.namedChildren, ShowsKey key member) ∧
      objectHasKey (withoutMethods node) key.toList = objectHasKey node key.toList ∧
      (node.kind = "object" → (∀ member ∈ node.namedChildren, ¬IsStray key member) →
        (objectHasKey node key.toList = true ↔
          ∃ member ∈ node.namedChildren,
            DefinesKey key member ∧ member.kind ≠ "method_definition") ∧
        ((objectHasKey node key.toList = true ↔
            ∃ member ∈ node.namedChildren, DefinesKey key member) ↔
          ((∃ member ∈ node.namedChildren,
              DefinesKey key member ∧ member.kind = "method_definition") →
            ∃ member ∈ node.namedChildren,
              DefinesKey key member ∧ member.kind ≠ "method_definition"))) ∧
      ∀ (scope : Scope) (form : Form) (error list : Node) (name : String) (index : Nat),
        error.kind = form.kind → HasName error form.field name → (name, index) ∈ errorConstructors →
        error.child? "arguments" = some list → list.kind = "arguments" →
        (list.namedChildren.filter (·.kind ≠ "comment"))[index]? = some node →
        (.errorCause ∈ ofKind scope error ↔
          node.kind = "object" ∧ ∃ member ∈ node.namedChildren, ShowsKey "cause" member) := by
  refine ⟨objectHasKey_iff_showsKey, objectHasKey_withoutMethods node, ?_, ?_⟩
  · intro kind noStray
    have shown : objectHasKey node key.toList = true ↔
        ∃ member ∈ node.namedChildren,
          DefinesKey key member ∧ member.kind ≠ "method_definition" := by
      rw [objectHasKey_iff_showsKey, and_iff_right kind, exists_showsKey_iff noStray]
    refine ⟨shown, ?_⟩
    rw [shown]
    constructor
    · rintro complete ⟨member, listed, defines, -⟩
      exact complete.mpr ⟨member, listed, defines⟩
    · intro otherwise
      constructor
      · rintro ⟨member, listed, defines, -⟩
        exact ⟨member, listed, defines⟩
      · rintro ⟨member, listed, defines⟩
        by_cases method : member.kind = "method_definition"
        · exact otherwise ⟨member, listed, defines, method⟩
        · exact ⟨member, listed, defines, method⟩
  · intro scope form error list name index kind callee listed found isList here
    rw [ofKind_of_errorConstructor form kind callee listed, errorCause_mem_iff,
      argumentHasKey_iff_listsOption found isList, ListsOption, here]
    simp only [Option.some.injEq, exists_eq_left', givesKey_iff_showsKey]

/-- A getter of a name. -/
def getter (name : String) : Node :=
  ⟨{ kind := "method_definition" },
    [⟨{ kind := "get", named := false }, []⟩,
      (Node.leaf "property_identifier" name.toList).withField "name"]⟩

/-- An object with some members. -/
def objectOf (members : List Node) : Node :=
  ⟨{ kind := "object" }, members⟩

/-- A getter defines the key that is its name. -/
theorem definesKey_getter (name : String) : DefinesKey name (getter name) := by
  refine .method rfl rfl (.identifier rfl ?_)
  exact Node.chars_leaf "property_identifier" name.toList

/-- Beside a getter, a shorthand for the cause is found and the getter's own name is not. -/
theorem keys_exact_shorthand :
    objectHasKey (objectOf [getter "code", Node.leaf "shorthand_property_identifier"
        "cause".toList]) "code".toList = false ∧
      .errorCause ∈ ofKind .outermost (applied .construction "Error" [power,
        objectOf [getter "code", Node.leaf "shorthand_property_identifier" "cause".toList]]) := by
  let shorthand := Node.leaf "shorthand_property_identifier" "cause".toList
  have members : (objectOf [getter "code", shorthand]).namedChildren =
      [getter "code", shorthand] := rfl
  have noStray : ∀ member ∈ (objectOf [getter "code", shorthand]).namedChildren,
      ¬IsStray "code" member := by
    rw [members]
    simp [IsStray, getter, shorthand, Node.leaf, Node.kind]
  constructor
  · obtain ⟨-, -, language, -⟩ := keys_exact "code" (objectOf [getter "code", shorthand])
    rw [Bool.eq_false_iff, ne_eq, (language rfl noStray).1, members]
    rintro ⟨member, listed, defines, noMethod⟩
    obtain rfl | isShorthand := List.mem_cons.mp listed
    · exact noMethod rfl
    · obtain rfl := List.mem_singleton.mp isShorthand
      cases defines with
      | pair kind => exact absurd kind (by decide)
      | method kind => exact absurd kind (by decide)
      | shorthand _ text =>
        rw [Node.chars_leaf] at text
        exact absurd text (by decide)
  · obtain ⟨-, -, -, cause⟩ := keys_exact "cause" (objectOf [getter "code", shorthand])
    refine (cause .outermost .construction _ _ "Error" 1 rfl (hasName_applied _ _ _) (by decide) rfl
      rfl rfl).mpr ⟨rfl, shorthand, ?_, ?_⟩
    · rw [members]
      exact List.mem_cons_of_mem _ (List.mem_singleton_self _)
    · exact Or.inl ⟨.shorthand rfl (Node.chars_leaf _ _), by decide⟩

/-- An object with a getter for the cause does not show it, and neither does an error that is made
with the object. -/
theorem cause_missed_of_getter :
    (objectOf [getter "cause"]).kind = "object" ∧
      (∃ member ∈ (objectOf [getter "cause"]).namedChildren, DefinesKey "cause" member) ∧
      objectHasKey (objectOf [getter "cause"]) "cause".toList = false ∧
      .errorCause ∉ ofKind .outermost
        (applied .construction "Error" [power, objectOf [getter "cause"]]) := by
  have members : (objectOf [getter "cause"]).namedChildren = [getter "cause"] := rfl
  have unseen : objectHasKey (objectOf [getter "cause"]) "cause".toList = false := by
    rw [Bool.eq_false_iff, ne_eq, objectHasKey_iff_showsKey, members]
    rintro ⟨-, member, listed, shows⟩
    obtain rfl := List.mem_singleton.mp listed
    exact not_showsKey_of_method rfl shows
  refine ⟨rfl, ⟨_, List.mem_singleton_self _, definesKey_getter "cause"⟩, unseen, ?_⟩
  have listed : ("Error", 1) ∈ errorConstructors := by decide
  rw [ofKind_of_errorConstructor .construction rfl (hasName_applied _ _ _) listed,
    errorCause_mem_iff]
  have second : (arguments (applied .construction "Error" [power, objectOf [getter "cause"]]))[1]? =
      some (objectOf [getter "cause"]) := rfl
  simp only [argumentHasKey, second, unseen, Bool.false_eq_true, not_false_eq_true]

end EcmaEdition.Rule
