import EcmaEdition.Proofs.Detection.Constructor
import EcmaEdition.Proofs.Detection.Occurrence

/-!
# Options among the arguments

An error is made with a cause, and a buffer with a greatest length, by an object among the arguments
that has the option's key. Here it is said which argument is looked at and what counts as having the
key. An error constructor shows the same with `new` and without. The arguments are read by their
places, and the rules are written down once more so that a read beyond the end of the list is a
fault (`Guarded`): each read stands behind a look at the length, and no node of any tree leads to a
fault.
-/

set_option autoImplicit false

namespace EcmaEdition.Rule

open EcmaEdition.Literal

/-! ## Keys -/

/-- A name spells a key: it is an identifier with the key as its text, in the ordinary form or in
shorthand, or a string with the key as its value. -/
inductive SpellsKey (key : String) (name : Node) : Prop where
  | identifier (kind : name.kind = "property_identifier") (text : name.chars = key.toList)
  | shorthand (kind : name.kind = "shorthand_property_identifier") (text : name.chars = key.toList)
  | string (kind : name.kind = "string") (value : stringValue? name = some key.toList)

/-- A member of an object gives it a key, as a pair under a name that spells the key, or as the
shorthand of the key. -/
inductive GivesKey (key : String) (member : Node) : Prop where
  | pair {name : Node} (kind : member.kind = "pair") (found : member.child? "key" = some name)
      (spells : SpellsKey key name) : GivesKey key member
  | shorthand (kind : member.kind = "shorthand_property_identifier")
      (text : member.chars = key.toList) : GivesKey key member

/-- At a place of an argument list, comments not counted, there is an object with a member that
gives it a key. -/
def ListsOption (list : Node) (index : Nat) (key : String) : Prop :=
  ∃ options, (list.namedChildren.filter (·.kind ≠ "comment"))[index]? = some options ∧
    options.kind = "object" ∧ ∃ member ∈ options.namedChildren, GivesKey key member

/-- The name of a key is read where the name spells it. -/
theorem keyName?_eq_some_iff {key : String} {name : Node} :
    keyName? name = some key.toList ↔ SpellsKey key name := by
  unfold keyName?
  constructor
  · intro spelled
    split at spelled
    · rename_i kind
      obtain kind | kind := kind
      · exact .identifier kind (Option.some.inj spelled)
      · exact .shorthand kind (Option.some.inj spelled)
    · split at spelled
      · rename_i kind
        exact .string kind spelled
      · cases spelled
  · intro spells
    cases spells with
    | identifier kind text => rw [if_pos (Or.inl kind), text]
    | shorthand kind text => rw [if_pos (Or.inr kind), text]
    | string kind value => simp [kind, value]

/-- A member is found to have the keys that it gives to its object. -/
theorem memberHasKey_iff_givesKey {key : String} {member : Node} :
    memberHasKey key.toList member = true ↔ GivesKey key member := by
  simp only [memberHasKey_iff, keyName?_eq_some_iff]
  constructor
  · rintro (⟨kind, name, found, spells⟩ | ⟨kind, text⟩)
    · exact .pair kind found spells
    · exact .shorthand kind text
  · intro gives
    cases gives with
    | pair kind found spells => exact Or.inl ⟨kind, _, found, spells⟩
    | shorthand kind text => exact Or.inr ⟨kind, text⟩

variable {scope : Scope} {node list : Node}

/-- A key is found at an argument if the list has an object there that gives it. -/
theorem argumentHasKey_iff_listsOption {index : Nat} {key : String}
    (found : node.child? "arguments" = some list) (kind : list.kind = "arguments") :
    argumentHasKey (arguments node) index key = true ↔ ListsOption list index key := by
  have given : arguments node = list.namedChildren.filter (·.kind ≠ "comment") := by
    simp only [arguments, found, kind, if_true, ne_eq, decide_not, bne, beq_eq_decide]
  unfold argumentHasKey ListsOption
  rw [given]
  cases (list.namedChildren.filter (·.kind ≠ "comment"))[index]? with
  | none => simp
  | some options => simp [objectHasKey, memberHasKey_iff_givesKey]

/-- Without a list there are no arguments. -/
theorem arguments_eq_nil (noList : ∀ list, node.child? "arguments" = some list →
    list.kind ≠ "arguments") : arguments node = [] := by
  unfold arguments
  cases found : node.child? "arguments" with
  | none => rfl
  | some list => exact if_neg (noList list found)

/-! ## Errors -/

/-- The error constructors, each with the place of the options among its arguments. -/
def errorConstructors : List (String × Nat) := [
  ("Error", 1), ("EvalError", 1), ("RangeError", 1), ("ReferenceError", 1), ("SyntaxError", 1),
  ("TypeError", 1), ("URIError", 1), ("AggregateError", 2)]

/-- Each error constructor has its options at the listed place. -/
theorem errorOptionsIndex?_of_mem {name : String} {index : Nat}
    (listed : (name, index) ∈ errorConstructors) : errorOptionsIndex? name = some index := by
  have table : ∀ entry ∈ errorConstructors, errorOptionsIndex? entry.1 = some entry.2 := by decide
  exact table _ listed

/-- An error constructor shows what its options show, with `new` and without, and nothing else. -/
theorem ofKind_of_errorConstructor (form : Form) {name : String} {index : Nat}
    (kind : node.kind = form.kind) (callee : HasName node form.field name)
    (listed : (name, index) ∈ errorConstructors) :
    ofKind scope node = errorCause index (arguments node) := by
  have table : ∀ entry ∈ errorConstructors, entry.1 ≠ "RegExp" ∧ entry.1 ≠ "BigInt" ∧
      construction? entry.1 = none ∧ isBuffer entry.1 = false := by decide
  obtain ⟨regexp, bigint, other, buffer⟩ := table _ listed
  have shared : sharedConstructor name (arguments node) = errorCause index (arguments node) := by
    rw [sharedConstructor, if_neg regexp, errorOptionsIndex?_of_mem listed]
  obtain ⟨child, found, identifier, rfl⟩ := callee
  -- Both forms come down to the shared rule, each past the names that it alone looks for.
  cases form with
  | construction =>
    simp only [Form.field] at found
    rw [ofKind_construction kind, construction, found]
    simp [identifier, other, buffer, shared, optional, FeatureSet.onlyIf]
  | call =>
    simp only [Form.field] at found
    rw [ofKind_call kind, call, found]
    simp [identifier, namedCall, bigint, shared]

/-- The cause is shown if the options carry it. -/
theorem errorCause_mem_iff (index : Nat) (arguments : List Node) :
    .errorCause ∈ errorCause index arguments ↔ argumentHasKey arguments index "cause" = true := by
  simp [errorCause]

/-! ## Buffers -/

/-- The construction of a buffer shows that it can be resized if its options carry a greatest
length. -/
theorem resizableArrayBuffers_mem_iff {name : String} (kind : node.kind = "new_expression")
    (callee : HasName node "constructor" name)
    (buffer : name = "ArrayBuffer" ∨ name = "SharedArrayBuffer") :
    .resizableArrayBuffers ∈ ofKind scope node ↔
      argumentHasKey (arguments node) 1 "maxByteLength" = true := by
  have constructs : Constructs node "ArrayBuffer" ∨ Constructs node "SharedArrayBuffer" := by
    obtain rfl | rfl := buffer
    · exact Or.inl ⟨kind, callee⟩
    · exact Or.inr ⟨kind, callee⟩
  rw [mem_ofKind_iff_shows, Shows, argumentHasKey_iff]
  exact and_iff_right constructs

/-! ## Reads by place -/

/-- A read beyond the end of a list of arguments. -/
structure OutOfRange where
  index : Nat
  length : Nat

/-- The argument at a place. It is a fault to ask for one that is not there. -/
def argumentAt (arguments : List Node) (index : Nat) : Except OutOfRange Node :=
  match arguments[index]? with
  | some argument => .ok argument
  | none => .error ⟨index, arguments.length⟩

namespace Guarded

/-- The pattern is read if there are arguments, and the flags if there is more than one. -/
def regexpConstructor (arguments : List Node) : Except OutOfRange FeatureSet := do
  let pattern ← if arguments.isEmpty then pure none else stringValue? <$> argumentAt arguments 0
  let flags ← if arguments.length > 1 then stringValue? <$> argumentAt arguments 1 else pure none
  return Pattern.features (pattern.getD []) (flags.getD [])

/-- The options are read if there are as many arguments. -/
def optionHasKey (arguments : List Node) (index : Nat) (key : String) : Except OutOfRange Bool := do
  if arguments.length > index then
    return objectHasKey (← argumentAt arguments index) key.toList
  else return false

def sharedConstructor (name : String) (arguments : List Node) : Except OutOfRange FeatureSet := do
  if name = "RegExp" then regexpConstructor arguments
  else
    match errorOptionsIndex? name with
    | some index => return FeatureSet.onlyIf (← optionHasKey arguments index "cause") .errorCause
    | none => return ∅

/-- The operand of a big integer is read if there are arguments. -/
def namedCall (name : String) (arguments : List Node) : Except OutOfRange FeatureSet := do
  if name = "BigInt" then
    if arguments.isEmpty then return ∅
    else
      let operand ← argumentAt arguments 0
      return FeatureSet.onlyIf (operand.kind = "string" || operand.kind = "number") .bigint
  else sharedConstructor name arguments

def call (node : Node) : Except OutOfRange FeatureSet :=
  match node.child? "function" with
  | some callee =>
    if callee.kind = "import" then .ok {Feature.dynamicImport}
    else if callee.kind = "member_expression" then .ok (memberCall callee)
    else if callee.kind = "identifier" then namedCall callee.string (arguments node)
    else .ok ∅
  | none => .ok ∅

def construction (node : Node) : Except OutOfRange FeatureSet := do
  match node.child? "constructor" with
  | some constructor =>
    if constructor.kind ≠ "identifier" then return ∅
    else
      let name := constructor.string
      let resizable ←
        if isBuffer name then optionHasKey (arguments node) 1 "maxByteLength" else pure false
      return optional (construction? name) ∪ FeatureSet.onlyIf resizable .resizableArrayBuffers ∪
        (← sharedConstructor name (arguments node))
  | none => return ∅

/-- What a node shows by itself, where calls and constructions read their arguments by place. -/
def ofKind (scope : Scope) (node : Node) : Except OutOfRange FeatureSet :=
  if node.kind = "call_expression" then call node
  else if node.kind = "new_expression" then construction node
  else .ok (Rule.ofKind scope node)

/-! A read that stands behind its guard succeeds, so each rule goes through. -/

/-- There is no fault in asking for an argument that is there. -/
theorem argumentAt_eq {arguments : List Node} {index : Nat} {argument : Node}
    (here : arguments[index]? = some argument) : argumentAt arguments index = .ok argument := by
  rw [argumentAt, here]

/-- The guarded reading of a pattern has no fault and shows what the rule shows. -/
theorem regexpConstructor_eq (arguments : List Node) :
    regexpConstructor arguments = .ok (Rule.regexpConstructor arguments) := by
  -- The guards tell apart lists of no argument, of one and of more.
  match arguments with
  | [] => rfl
  | [_] => rfl
  | _ :: _ :: _ => rfl

/-- The guarded reading of options has no fault and finds what the look-up finds. -/
theorem optionHasKey_eq (arguments : List Node) (index : Nat) (key : String) :
    optionHasKey arguments index key = .ok (argumentHasKey arguments index key) := by
  unfold optionHasKey argumentHasKey
  by_cases inside : index < arguments.length
  · have here := List.getElem?_eq_getElem inside
    rw [if_pos inside, argumentAt_eq here, here]
    rfl
  · rw [if_neg inside, List.getElem?_eq_none (Nat.le_of_not_lt inside)]
    rfl

/-- The guarded reading of a constructor that may be called has no fault. -/
theorem sharedConstructor_eq (name : String) (arguments : List Node) :
    sharedConstructor name arguments = .ok (Rule.sharedConstructor name arguments) := by
  unfold sharedConstructor Rule.sharedConstructor
  by_cases regexp : name = "RegExp"
  · rw [if_pos regexp, if_pos regexp, regexpConstructor_eq]
  · rw [if_neg regexp, if_neg regexp]
    cases errorOptionsIndex? name with
    | none => rfl
    | some index =>
      simp only [optionHasKey_eq]
      rfl

/-- The guarded reading of a call by name has no fault. -/
theorem namedCall_eq (name : String) (arguments : List Node) :
    namedCall name arguments = .ok (Rule.namedCall name arguments) := by
  unfold namedCall Rule.namedCall
  by_cases bigint : name = "BigInt"
  · rw [if_pos bigint, if_pos bigint]
    cases arguments <;> rfl
  · rw [if_neg bigint, if_neg bigint, sharedConstructor_eq]

/-- The guarded reading of a call has no fault. -/
theorem call_eq (node : Node) : call node = .ok (Rule.call node) := by
  unfold call Rule.call
  cases node.child? "function" with
  | none => rfl
  | some callee =>
    simp only [namedCall_eq]
    split
    · rfl
    · split
      · rfl
      · split <;> rfl

/-- The guarded reading of a construction has no fault. -/
theorem construction_eq (node : Node) : construction node = .ok (Rule.construction node) := by
  unfold construction Rule.construction
  cases node.child? "constructor" with
  | none => rfl
  | some constructor =>
    by_cases identifier : constructor.kind ≠ "identifier"
    · simp only [if_pos identifier]
      rfl
    · simp only [if_neg identifier, optionHasKey_eq, sharedConstructor_eq]
      cases isBuffer constructor.string <;> rfl

/-- No node leads to a fault, and what is shown is what the rules say. -/
theorem ofKind_eq (scope : Scope) (node : Node) :
    ofKind scope node = .ok (Rule.ofKind scope node) := by
  unfold ofKind
  split
  · rename_i kind
    rw [call_eq, ofKind_call kind]
  · split
    · rename_i kind
      rw [construction_eq, ofKind_construction kind]
    · rfl

end Guarded

/-! ## Causes and lengths -/

/-- An error constructor, called or constructed, shows a cause if and only if its list has an object
with that key at the place of its options; the two forms show the same for the same list. A buffer
that is constructed is resizable if and only if its list has an object with a greatest length at the
second place. No read of an argument is beyond the end of a list, whatever the node, and without an
argument list there are no arguments and none of the two is shown. -/
theorem options_exact :
    (∀ (scope : Scope) (form : Form) (node list : Node) (name : String) (index : Nat),
        node.kind = form.kind → HasName node form.field name → (name, index) ∈ errorConstructors →
        node.child? "arguments" = some list → list.kind = "arguments" →
        (.errorCause ∈ ofKind scope node ↔ ListsOption list index "cause")) ∧
      (∀ (scope : Scope) (called constructed : Node) (name : String) (index : Nat),
        called.kind = "call_expression" → HasName called "function" name →
        constructed.kind = "new_expression" → HasName constructed "constructor" name →
        (name, index) ∈ errorConstructors →
        called.child? "arguments" = constructed.child? "arguments" →
        ofKind scope called = ofKind scope constructed) ∧
      (∀ (scope : Scope) (node list : Node) (name : String),
        node.kind = "new_expression" → HasName node "constructor" name →
        name = "ArrayBuffer" ∨ name = "SharedArrayBuffer" →
        node.child? "arguments" = some list → list.kind = "arguments" →
        (.resizableArrayBuffers ∈ ofKind scope node ↔ ListsOption list 1 "maxByteLength")) ∧
      (∀ (scope : Scope) (node : Node), Guarded.ofKind scope node = .ok (ofKind scope node)) ∧
      ∀ (scope : Scope) (node : Node),
        (∀ list, node.child? "arguments" = some list → list.kind ≠ "arguments") →
        arguments node = [] ∧ .errorCause ∉ ofKind scope node ∧
          .resizableArrayBuffers ∉ ofKind scope node := by
  refine ⟨?_, ?_, ?_, Guarded.ofKind_eq, ?_⟩
  · intro scope form node list name index kind callee listed found isList
    rw [ofKind_of_errorConstructor form kind callee listed, errorCause_mem_iff,
      argumentHasKey_iff_listsOption found isList]
  · intro scope called constructed name index kind callee kind' callee' listed same
    have sameArguments : arguments called = arguments constructed := by
      rw [arguments, arguments, same]
    have called_eq : ofKind scope called = errorCause index (arguments called) :=
      ofKind_of_errorConstructor .call kind callee listed
    have constructed_eq : ofKind scope constructed = errorCause index (arguments constructed) :=
      ofKind_of_errorConstructor .construction kind' callee' listed
    rw [called_eq, constructed_eq, sameArguments]
  · intro scope node list name kind callee buffer found isList
    rw [resizableArrayBuffers_mem_iff kind callee buffer,
      argumentHasKey_iff_listsOption found isList]
  · intro scope node noList
    have none := arguments_eq_nil noList
    have noOption : ∀ index key, ¬HasOption node index key := by
      intro index key
      rw [← argumentHasKey_iff, none]
      simp [argumentHasKey]
    refine ⟨none, ?_, ?_⟩
    · rw [mem_ofKind_iff_shows]
      rintro ⟨name, index, -, -, option⟩
      exact noOption index "cause" option
    · rw [mem_ofKind_iff_shows]
      rintro ⟨-, option⟩
      exact noOption 1 "maxByteLength" option

/-- A constructor applied by its name to what a list has. -/
def applied (form : Form) (name : String) (list : List Node) : Node :=
  ⟨{ kind := form.kind },
    [(Node.leaf "identifier" name.toList).withField form.field,
      ⟨{ kind := "arguments", field := some "arguments" }, list⟩]⟩

/-- An object with a shorthand for its only key. -/
def shorthandObject (key : String) : Node :=
  ⟨{ kind := "object" }, [Node.leaf "shorthand_property_identifier" key.toList]⟩

/-- An applied constructor has its name in the field of its form. -/
theorem hasName_applied (form : Form) (name : String) (list : List Node) :
    HasName (applied form name list) form.field name := by
  have named : (Node.leaf "identifier" name.toList).string = name := by
    rw [Node.string, Node.chars_leaf, String.ofList_toList]
  cases form <;> exact ⟨_, rfl, rfl, named⟩

/-- The shorthand of a key gives it to its object. -/
theorem givesKey_shorthand (key : String) :
    GivesKey key (Node.leaf "shorthand_property_identifier" key.toList) :=
  .shorthand rfl (Node.chars_leaf _ _)

/-- The options of an aggregate error stand at the third place, and a comment before them does not
count. -/
theorem options_exact_aggregateError :
    .errorCause ∈ ofKind .outermost
        (applied .call "AggregateError" [power, power, comment, shorthandObject "cause"]) ∧
      .errorCause ∉ ofKind .outermost
        (applied .construction "AggregateError" [power, shorthandObject "cause"]) ∧
      .resizableArrayBuffers ∈ ofKind .outermost
        (applied .construction "ArrayBuffer" [power, shorthandObject "maxByteLength"]) := by
  obtain ⟨cause, -, length, -⟩ := options_exact
  have third : ("AggregateError", 2) ∈ errorConstructors := by decide
  refine ⟨?_, ?_, ?_⟩
  · have shown := cause .outermost .call _ _ "AggregateError" 2 rfl
      (hasName_applied _ _ [power, power, comment, shorthandObject "cause"]) third rfl rfl
    refine shown.mpr ⟨shorthandObject "cause", rfl, rfl, _, List.mem_singleton_self _, ?_⟩
    exact givesKey_shorthand _
  · have shown := cause .outermost .construction _ _ "AggregateError" 2 rfl
      (hasName_applied _ _ [power, shorthandObject "cause"]) third rfl rfl
    rw [shown]
    rintro ⟨options, found, -⟩
    cases found
  · have shown := length .outermost _ _ "ArrayBuffer" rfl
      (hasName_applied .construction _ [power, shorthandObject "maxByteLength"]) (Or.inl rfl) rfl
      rfl
    refine shown.mpr ⟨shorthandObject "maxByteLength", rfl, rfl, _, List.mem_singleton_self _, ?_⟩
    exact givesKey_shorthand _

end EcmaEdition.Rule
