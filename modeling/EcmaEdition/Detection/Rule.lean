import EcmaEdition.Detection.Literal
import EcmaEdition.Detection.Pattern

/-!
# The rules of detection

Each kind of node that can show a feature has a rule, which looks at the node, its children and
the text below it. One bit of context is all that a rule knows of what lies above: whether the node
stands inside a function.
-/

set_option autoImplicit false

namespace EcmaEdition.Rule

open EcmaEdition.Literal

/-- Where a node stands: in the outermost code, or inside a function. -/
inductive Scope where
  | outermost
  | function
  deriving DecidableEq, Repr

/-- The kinds of nodes that are functions. -/
def functionKinds : List String :=
  ["function_declaration", "function_expression", "function", "generator_function_declaration",
    "generator_function", "arrow_function", "method_definition"]

/-- Whether a node is a function. -/
def isFunction (node : Node) : Bool :=
  functionKinds.contains node.kind

/-- The scope of a node's children: everything below a function is inside it. -/
def Scope.below (scope : Scope) (node : Node) : Scope :=
  if isFunction node then .function else scope

/-- The features of methods that are called on a global object by its name. -/
def staticCall? (receiver member : String) : Option Feature :=
  match receiver, member with
  | "Object", "values" => some .objectValuesEntries
  | "Object", "entries" => some .objectValuesEntries
  | "Object", "getOwnPropertyDescriptors" => some .objectGetOwnPropertyDescriptors
  | "Object", "fromEntries" => some .objectFromEntries
  | "Object", "hasOwn" => some .objectHasOwn
  | "Object", "groupBy" => some .arrayGrouping
  | "Map", "groupBy" => some .arrayGrouping
  | "Promise", "allSettled" => some .promiseAllSettled
  | "Promise", "any" => some .promiseAny
  | "Promise", "withResolvers" => some .promiseWithResolvers
  | "Promise", "try" => some .promiseTry
  | "Atomics", "waitAsync" => some .atomicsWaitAsync
  | "RegExp", "escape" => some .regexpEscape
  | "Math", "f16round" => some .float16Array
  | _, _ => none

/-- The features of methods that are called on an array literal. -/
def arrayCall? (member : String) : Option Feature :=
  if member = "groupBy" then some .arrayGrouping else none

/-- The features of constructions, by the name of the constructor. -/
def construction? : String → Option Feature
  | "SharedArrayBuffer" => some .sharedMemoryAndAtomics
  | "WeakRef" => some .weakReferences
  | "FinalizationRegistry" => some .weakReferences
  | "Float16Array" => some .float16Array
  | _ => none

/-- Whether a constructor makes a buffer that may be resizable. -/
def isBuffer (name : String) : Bool :=
  name = "ArrayBuffer" || name = "SharedArrayBuffer"

/-- The place of the options among the arguments of an error constructor. -/
def errorOptionsIndex? : String → Option Nat
  | "Error" => some 1
  | "EvalError" => some 1
  | "RangeError" => some 1
  | "ReferenceError" => some 1
  | "SyntaxError" => some 1
  | "TypeError" => some 1
  | "URIError" => some 1
  | "AggregateError" => some 2
  | _ => none

/-- The features of binary operators. -/
def binaryOperator? : String → Option Feature
  | "**" => some .exponentiationOperator
  | "??" => some .nullishCoalescingOperator
  | _ => none

/-- The features of assignment operators. -/
def assignmentOperator? : String → Option Feature
  | "**=" => some .exponentiationOperator
  | "??=" => some .logicalAssignmentOperators
  | "&&=" => some .logicalAssignmentOperators
  | "||=" => some .logicalAssignmentOperators
  | _ => none

/-- The set of a feature that may be absent. -/
def optional : Option Feature → FeatureSet
  | some feature => {feature}
  | none => ∅

/-- What the modifiers of a function show: whether it is asynchronous, and then whether it is a
generator as well, by its kind or by its star. -/
def modifiers (node : Node) : FeatureSet :=
  if node.hasChild "async" then
    {Feature.asyncFunctions} ∪
      FeatureSet.onlyIf (node.kindOpensWith "generator_" || node.hasChild "*") .asyncIteration
  else ∅

/-- What the arguments of a regular expression's constructor show. An argument that is absent or no
constant string counts as empty. -/
def regexpConstructor (arguments : List Node) : FeatureSet :=
  Pattern.features ((arguments[0]?.bind stringValue?).getD [])
    ((arguments[1]?.bind stringValue?).getD [])

/-- Whether the argument at a place is an object literal with a key. -/
def argumentHasKey (arguments : List Node) (index : Nat) (key : String) : Bool :=
  match arguments[index]? with
  | some argument => objectHasKey argument key.toList
  | none => false

/-- What the arguments of an error constructor show, given the place of its options. -/
def errorCause (index : Nat) (arguments : List Node) : FeatureSet :=
  FeatureSet.onlyIf (argumentHasKey arguments index "cause") .errorCause

/-- What the arguments show that a regular expression or an error is made from. -/
def sharedConstructor (name : String) (arguments : List Node) : FeatureSet :=
  if name = "RegExp" then regexpConstructor arguments
  else
    match errorOptionsIndex? name with
    | some index => errorCause index arguments
    | none => ∅

/-- A call of a method: of a global object's, or of an array literal's. -/
def memberCall (callee : Node) : FeatureSet :=
  match callee.child? "object", callee.child? "property" with
  | some receiver, some member =>
    if member.kind ≠ "property_identifier" then ∅
    else if receiver.kind = "identifier" then optional (staticCall? receiver.string member.string)
    else if receiver.kind = "array" then optional (arrayCall? member.string)
    else ∅
  | _, _ => ∅

/-- A call of a function by its name. -/
def namedCall (name : String) (arguments : List Node) : FeatureSet :=
  if name = "BigInt" then
    match arguments[0]? with
    | some operand => FeatureSet.onlyIf (operand.kind = "string" || operand.kind = "number") .bigint
    | none => ∅
  else sharedConstructor name arguments

/-- A call: of `import`, of a method, or of a function by its name. -/
def call (node : Node) : FeatureSet :=
  match node.child? "function" with
  | some callee =>
    if callee.kind = "import" then {Feature.dynamicImport}
    else if callee.kind = "member_expression" then memberCall callee
    else if callee.kind = "identifier" then namedCall callee.string (arguments node)
    else ∅
  | none => ∅

/-- A construction by a constructor's name. -/
def construction (node : Node) : FeatureSet :=
  match node.child? "constructor" with
  | some constructor =>
    if constructor.kind ≠ "identifier" then ∅
    else
      let name := constructor.string
      let arguments := arguments node
      optional (construction? name) ∪
        FeatureSet.onlyIf (isBuffer name && argumentHasKey arguments 1 "maxByteLength")
          .resizableArrayBuffers ∪
        sharedConstructor name arguments
  | none => ∅

/-- A property access: on the global object, or on `import` itself. -/
def access (node : Node) : FeatureSet :=
  match node.child? "object" with
  | some receiver =>
    if receiver.kind = "identifier" then
      FeatureSet.onlyIf (receiver.string = "globalThis") .globalThis
    else FeatureSet.onlyIf (receiver.kind = "import") .importMeta
  | none => ∅

/-- A binary operation: its operator, and whether it asks for a private field. -/
def binary (node : Node) : FeatureSet :=
  match node.child? "operator" with
  | some operator =>
    let brand :=
      match node.child? "left" with
      | some left => operator.kind = "in" && left.kind = "private_property_identifier"
      | none => false
    optional (binaryOperator? operator.kind) ∪
      FeatureSet.onlyIf brand .privateFieldBrandChecks
  | none => ∅

/-- An assignment by an operator. -/
def augmentedAssignment (node : Node) : FeatureSet :=
  match node.child? "operator" with
  | some operator => optional (assignmentOperator? operator.kind)
  | none => ∅

/-- A method: its modifiers, and whether its name is private. -/
def method (node : Node) : FeatureSet :=
  let isPrivate :=
    match node.child? "name" with
    | some name => name.kind = "private_property_identifier"
    | none => false
  modifiers node ∪ FeatureSet.onlyIf isPrivate .classFields

/-- An `await`, which is part of an asynchronous function or of the outermost code. -/
def await (scope : Scope) : FeatureSet :=
  match scope with
  | .function => {Feature.asyncFunctions}
  | .outermost => {Feature.topLevelAwait}

/-- A number: separators between its digits, and the suffix of a big integer. -/
def number (node : Node) : FeatureSet :=
  FeatureSet.onlyIf (node.chars.contains '_') .numericSeparators ∪
    FeatureSet.onlyIf (node.chars.getLast? == some 'n') .bigint

/-- A regular expression literal. -/
def regex (node : Node) : FeatureSet :=
  Pattern.features (Node.chars? (node.child? "pattern")) (Node.chars? (node.child? "flags"))

/-- A loop over keys or values, which may await each value. -/
def forIn (scope : Scope) (node : Node) : FeatureSet :=
  FeatureSet.onlyIf (node.hasChild "in") .forInMechanics ∪
    if node.hasChild "await" then
      {Feature.asyncIteration} ∪ FeatureSet.onlyIf (scope = .outermost) .topLevelAwait
    else ∅

/-- What a named node of a kind shows by itself. -/
def ofKind (scope : Scope) (node : Node) : FeatureSet :=
  match node.kind with
  | "hashbang_line" | "hashbang_comment" | "hash_bang_line" => {Feature.hashbangGrammar}
  | "function_declaration" | "function_expression" | "function" |
    "generator_function_declaration" | "generator_function" | "arrow_function" => modifiers node
  | "method_definition" => method node
  | "field_definition" => {Feature.classFields}
  | "class_static_block" => {Feature.classStaticBlock}
  | "await_expression" => await scope
  | "binary_expression" => binary node
  | "augmented_assignment_expression" => augmentedAssignment node
  | "optional_chain" => {Feature.optionalChaining}
  | "call_expression" => call node
  | "new_expression" => construction node
  | "member_expression" | "subscript_expression" => access node
  | "meta_property" => FeatureSet.onlyIf (node.hasChild "import") .importMeta
  | "number" => number node
  | "regex" => regex node
  | "rest_pattern" | "spread_element" => {Feature.restSpreadProperties}
  | "for_in_statement" => forIn scope node
  | "catch_clause" =>
    FeatureSet.onlyIf (node.child? "parameter").isNone .optionalCatchBinding
  | _ => ∅

/-- What a node shows by itself. Rules apply to named nodes only. -/
def features (scope : Scope) (node : Node) : FeatureSet :=
  if node.named then ofKind scope node else ∅

end EcmaEdition.Rule
