import EcmaEdition.Proofs.Detection.Argument
import EcmaEdition.Proofs.Detection.Source

/-!
# Calls and constructions

A call applies a function by its name, calls a member of something, or calls `import`; a
construction applies a constructor by its name. Here these shapes are described by what stands under
which field, and an argument by how many arguments come before it. In these terms it is said what
each rule about calls and constructions shows: a feature is shown if and only if one of a few
descriptions fits.
-/

set_option autoImplicit false

namespace EcmaEdition.Rule

open EcmaEdition.Literal

/-! ## Shapes -/

/-- The node under a field is of a kind. -/
def HasField (node : Node) (field kind : String) : Prop :=
  ∃ child, node.child? field = some child ∧ child.kind = kind

/-- The node under a field is an identifier with the given text. -/
def HasName (node : Node) (field name : String) : Prop :=
  ∃ child, node.child? field = some child ∧ child.kind = "identifier" ∧ child.string = name

/-- A call of a function by its name. -/
def Calls (node : Node) (name : String) : Prop :=
  node.kind = "call_expression" ∧ HasName node "function" name

/-- A construction by the name of the constructor. -/
def Constructs (node : Node) (name : String) : Prop :=
  node.kind = "new_expression" ∧ HasName node "constructor" name

/-- A member of a receiver, which a property identifier names. -/
def IsMember (node receiver : Node) (member : String) : Prop :=
  node.child? "object" = some receiver ∧
    ∃ property, node.child? "property" = some property ∧ property.kind = "property_identifier" ∧
      property.string = member

/-- A call of a member of a receiver. -/
def CallsMember (node receiver : Node) (member : String) : Prop :=
  node.kind = "call_expression" ∧ ∃ callee, node.child? "function" = some callee ∧
    callee.kind = "member_expression" ∧ IsMember callee receiver member

/-- A call of a member of a global object, which stands there by its name. -/
def CallsStatic (node : Node) (object member : String) : Prop :=
  ∃ receiver, CallsMember node receiver member ∧ receiver.kind = "identifier" ∧
    receiver.string = object

/-- A call of a member of an array literal. -/
def CallsOnArray (node : Node) (member : String) : Prop :=
  ∃ receiver, CallsMember node receiver member ∧ receiver.kind = "array"

/-! ## Tables -/

/-- The members of global objects that show a feature when they are called. -/
def staticCalls : List (String × String × Feature) := [
  ("Object", "values", .objectValuesEntries), ("Object", "entries", .objectValuesEntries),
  ("Object", "getOwnPropertyDescriptors", .objectGetOwnPropertyDescriptors),
  ("Object", "fromEntries", .objectFromEntries), ("Object", "hasOwn", .objectHasOwn),
  ("Object", "groupBy", .arrayGrouping), ("Map", "groupBy", .arrayGrouping),
  ("Promise", "allSettled", .promiseAllSettled), ("Promise", "any", .promiseAny),
  ("Promise", "withResolvers", .promiseWithResolvers), ("Promise", "try", .promiseTry),
  ("Atomics", "waitAsync", .atomicsWaitAsync), ("RegExp", "escape", .regexpEscape),
  ("Math", "f16round", .float16Array)]

/-- A call of a static member shows the feature that the table has for it. -/
theorem staticCall?_eq_some_iff (object member : String) (feature : Feature) :
    staticCall? object member = some feature ↔ (object, member, feature) ∈ staticCalls := by
  constructor
  · intro found
    unfold staticCall? at found
    split at found <;> cases found <;> decide
  · intro listed
    have table : ∀ entry ∈ staticCalls, staticCall? entry.1 entry.2.1 = some entry.2.2 := by decide
    exact table _ listed

/-- The one member that shows a feature when it is called on an array is `groupBy`. -/
theorem arrayCall?_eq_some_iff (member : String) (feature : Feature) :
    arrayCall? member = some feature ↔ member = "groupBy" ∧ feature = .arrayGrouping := by
  unfold arrayCall?
  split
  · rename_i same
    simp [same, eq_comm]
  · rename_i other
    simp [other]

/-- The constructors that show a feature when something is constructed. -/
def constructions : List (String × Feature) := [
  ("SharedArrayBuffer", .sharedMemoryAndAtomics), ("WeakRef", .weakReferences),
  ("FinalizationRegistry", .weakReferences), ("Float16Array", .float16Array)]

/-- The construction of an object shows the feature that the table has for its name. -/
theorem construction?_eq_some_iff (name : String) (feature : Feature) :
    construction? name = some feature ↔ (name, feature) ∈ constructions := by
  constructor
  · intro found
    unfold construction? at found
    split at found <;> cases found <;> decide
  · intro listed
    have table : ∀ entry ∈ constructions, construction? entry.1 = some entry.2 := by decide
    exact table _ listed

/-! ## Rules -/

variable {scope : Scope} {node : Node} {feature : Feature}

/-- An optional feature is shown if it is there. -/
theorem mem_optional_iff (found : Option Feature) :
    feature ∈ optional found ↔ found = some feature := by
  cases found with
  | none => simp [optional]
  | some other => simp [optional, eq_comm]

/-- A constructor that may also be called shows what its pattern has or that its options carry a
cause. -/
theorem mem_sharedConstructor_iff (name : String) :
    feature ∈ sharedConstructor name (arguments node) ↔
      name = "RegExp" ∧ feature ∈ regexpConstructor (arguments node) ∨
        ∃ index, errorOptionsIndex? name = some index ∧ HasOption node index "cause" ∧
          feature = .errorCause := by
  unfold sharedConstructor
  by_cases regexp : name = "RegExp"
  · simp [regexp, errorOptionsIndex?]
  · rw [if_neg regexp]
    cases errorOptionsIndex? name with
    | none => simp [regexp]
    | some index => simp [regexp, errorCause, argumentHasKey_iff]

/-- What is shown alike in every way to apply a constructor by its name. -/
theorem exists_sharedConstructor_iff {applied : String → Prop} :
    (∃ name, applied name ∧ feature ∈ sharedConstructor name (arguments node)) ↔
      applied "RegExp" ∧ feature ∈ regexpConstructor (arguments node) ∨
        (∃ name index, errorOptionsIndex? name = some index ∧ applied name ∧
          HasOption node index "cause") ∧ feature = .errorCause := by
  simp only [mem_sharedConstructor_iff]
  constructor
  · rintro ⟨name, applies, ⟨rfl, shown⟩ | ⟨index, table, option, rfl⟩⟩
    · exact Or.inl ⟨applies, shown⟩
    · exact Or.inr ⟨⟨name, index, table, applies, option⟩, rfl⟩
  · rintro (⟨applies, shown⟩ | ⟨⟨name, index, table, applies, option⟩, rfl⟩)
    · exact ⟨"RegExp", applies, Or.inl ⟨rfl, shown⟩⟩
    · exact ⟨name, applies, Or.inr ⟨index, table, option, rfl⟩⟩

/-- A call of a plain name shows big integers if the name is `BigInt` and the operand is a literal,
and otherwise what the constructor of that name shows. -/
theorem mem_namedCall_iff (name : String) :
    feature ∈ namedCall name (arguments node) ↔
      (name = "BigInt" ∧ ∃ operand, HasArgument node 0 operand ∧
          (operand.kind = "string" ∨ operand.kind = "number")) ∧ feature = .bigint ∨
        feature ∈ sharedConstructor name (arguments node) := by
  unfold namedCall
  by_cases bigint : name = "BigInt"
  · have shared : sharedConstructor name (arguments node) = ∅ := by
      rw [bigint]
      rfl
    rw [if_pos bigint, shared]
    simp only [← arguments_getElem?_eq_some_iff]
    cases (arguments node)[0]? with
    | none => simp
    | some operand => simp [bigint]
  · rw [if_neg bigint]
    simp [bigint]

/-- A call of a member shows what the tables have for it on a name or on an array. -/
theorem mem_memberCall_iff (callee : Node) :
    feature ∈ memberCall callee ↔
      ∃ receiver member, IsMember callee receiver member ∧
        (receiver.kind = "identifier" ∧ staticCall? receiver.string member = some feature ∨
          receiver.kind = "array" ∧ arrayCall? member = some feature) := by
  unfold memberCall IsMember
  cases callee.child? "object" with
  | none => simp
  | some receiver =>
    cases callee.child? "property" with
    | none => simp
    | some property =>
      by_cases kind : property.kind = "property_identifier"
      · by_cases identifier : receiver.kind = "identifier"
        · simp [kind, identifier, mem_optional_iff]
        · by_cases array : receiver.kind = "array"
          · simp [kind, array, mem_optional_iff]
          · simp [kind, identifier, array]
      · simp [kind]

/-- A call shows a dynamic import, or what it calls: a member or a plain name. -/
theorem mem_call_iff :
    feature ∈ call node ↔
      HasField node "function" "import" ∧ feature = .dynamicImport ∨
        (∃ callee, node.child? "function" = some callee ∧ callee.kind = "member_expression" ∧
          feature ∈ memberCall callee) ∨
        ∃ name, HasName node "function" name ∧ feature ∈ namedCall name (arguments node) := by
  unfold call HasField HasName
  cases node.child? "function" with
  | none => simp
  | some callee =>
    by_cases import_ : callee.kind = "import"
    · simp [import_]
    · by_cases member : callee.kind = "member_expression"
      · simp [member]
      · by_cases identifier : callee.kind = "identifier"
        · simp [identifier]
        · simp [import_, member, identifier]

/-- A construction shows what the table has for its name, a buffer with a greatest length, or what
its constructor also shows when it is called. -/
theorem mem_construction_iff :
    feature ∈ construction node ↔
      (∃ name, HasName node "constructor" name ∧ construction? name = some feature) ∨
        ((HasName node "constructor" "ArrayBuffer" ∨
            HasName node "constructor" "SharedArrayBuffer") ∧
          HasOption node 1 "maxByteLength") ∧ feature = .resizableArrayBuffers ∨
        ∃ name, HasName node "constructor" name ∧
          feature ∈ sharedConstructor name (arguments node) := by
  unfold construction HasName
  cases node.child? "constructor" with
  | none => simp
  | some constructor =>
    by_cases identifier : constructor.kind = "identifier"
    · simp [identifier, mem_optional_iff, isBuffer, argumentHasKey_iff, or_assoc]
    · simp [identifier]

/-- The rule for a call expression is the one for calls. -/
theorem ofKind_call (kind : node.kind = "call_expression") : ofKind scope node = call node := by
  simp only [ofKind, kind]

/-- The rule for a new expression is the one for constructions. -/
theorem ofKind_construction (kind : node.kind = "new_expression") :
    ofKind scope node = construction node := by
  simp only [ofKind, kind]

/-! ## Calls and constructions by what they show -/

/-- Calls of members show the features of static calls, and grouping on arrays. -/
theorem exists_memberCall_iff :
    (node.kind = "call_expression" ∧ ∃ callee, node.child? "function" = some callee ∧
        callee.kind = "member_expression" ∧ feature ∈ memberCall callee) ↔
      (∃ object member, CallsStatic node object member ∧
          (object, member, feature) ∈ staticCalls) ∨
        CallsOnArray node "groupBy" ∧ feature = .arrayGrouping := by
  simp only [mem_memberCall_iff, staticCall?_eq_some_iff, arrayCall?_eq_some_iff]
  constructor
  · rintro ⟨kind, callee, found, access, receiver, member, isMember,
      ⟨global, table⟩ | ⟨array, rfl, rfl⟩⟩
    · exact Or.inl ⟨receiver.string, member,
        ⟨receiver, ⟨kind, callee, found, access, isMember⟩, global, rfl⟩, table⟩
    · exact Or.inr ⟨⟨receiver, ⟨kind, callee, found, access, isMember⟩, array⟩, rfl⟩
  · rintro (⟨object, member, ⟨receiver, ⟨kind, callee, found, access, isMember⟩, global, rfl⟩,
      table⟩ | ⟨⟨receiver, ⟨kind, callee, found, access, isMember⟩, array⟩, rfl⟩)
    · exact ⟨kind, callee, found, access, receiver, member, isMember, Or.inl ⟨global, table⟩⟩
    · exact ⟨kind, callee, found, access, receiver, "groupBy", isMember, Or.inr ⟨array, rfl, rfl⟩⟩

/-- Calls of plain names show big integers, features of a pattern and error causes. -/
theorem exists_namedCall_iff :
    (∃ name, Calls node name ∧ feature ∈ namedCall name (arguments node)) ↔
      (Calls node "BigInt" ∧ ∃ operand, HasArgument node 0 operand ∧
          (operand.kind = "string" ∨ operand.kind = "number")) ∧ feature = .bigint ∨
        Calls node "RegExp" ∧ feature ∈ regexpConstructor (arguments node) ∨
        (∃ name index, errorOptionsIndex? name = some index ∧ Calls node name ∧
          HasOption node index "cause") ∧ feature = .errorCause := by
  rw [← exists_sharedConstructor_iff]
  simp only [mem_namedCall_iff]
  constructor
  · rintro ⟨name, calls, ⟨⟨rfl, operand⟩, rfl⟩ | shown⟩
    · exact Or.inl ⟨⟨calls, operand⟩, rfl⟩
    · exact Or.inr ⟨name, calls, shown⟩
  · rintro (⟨⟨calls, operand⟩, rfl⟩ | ⟨name, calls, shown⟩)
    · exact ⟨"BigInt", calls, Or.inl ⟨⟨rfl, operand⟩, rfl⟩⟩
    · exact ⟨name, calls, Or.inr shown⟩

/-- What a call shows: a dynamic import, the feature of a member in the table, array grouping for a
member of an array literal, a big integer that is made from a literal, what the arguments of
`RegExp` make, or the cause of an error. -/
theorem mem_ofKind_call_iff :
    node.kind = "call_expression" ∧ feature ∈ ofKind scope node ↔
      (node.kind = "call_expression" ∧ HasField node "function" "import") ∧
          feature = .dynamicImport ∨
        (∃ object member, CallsStatic node object member ∧
          (object, member, feature) ∈ staticCalls) ∨
        CallsOnArray node "groupBy" ∧ feature = .arrayGrouping ∨
        (Calls node "BigInt" ∧ ∃ operand, HasArgument node 0 operand ∧
          (operand.kind = "string" ∨ operand.kind = "number")) ∧ feature = .bigint ∨
        Calls node "RegExp" ∧ feature ∈ regexpConstructor (arguments node) ∨
        (∃ name index, errorOptionsIndex? name = some index ∧ Calls node name ∧
          HasOption node index "cause") ∧ feature = .errorCause := by
  rw [← exists_namedCall_iff, ← or_assoc (b := CallsOnArray node "groupBy" ∧ _),
    ← exists_memberCall_iff]
  by_cases kind : node.kind = "call_expression"
  · simp only [ofKind_call kind, mem_call_iff, Calls, kind, true_and]
  · simp only [Calls, kind, false_and, exists_false, or_self]

/-- What a construction shows: the feature of a constructor in the table, a resizable buffer, what
the arguments of `RegExp` make, or the cause of an error. -/
theorem mem_ofKind_construction_iff :
    node.kind = "new_expression" ∧ feature ∈ ofKind scope node ↔
      (∃ name, Constructs node name ∧ (name, feature) ∈ constructions) ∨
        ((Constructs node "ArrayBuffer" ∨ Constructs node "SharedArrayBuffer") ∧
          HasOption node 1 "maxByteLength") ∧ feature = .resizableArrayBuffers ∨
        Constructs node "RegExp" ∧ feature ∈ regexpConstructor (arguments node) ∨
        (∃ name index, errorOptionsIndex? name = some index ∧ Constructs node name ∧
          HasOption node index "cause") ∧ feature = .errorCause := by
  rw [← exists_sharedConstructor_iff]
  by_cases kind : node.kind = "new_expression"
  · simp only [ofKind_construction kind, mem_construction_iff, construction?_eq_some_iff,
      Constructs, kind, true_and]
  · simp only [Constructs, kind, false_and, exists_false, or_self]

end EcmaEdition.Rule
