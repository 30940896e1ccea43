import EcmaEdition.Edition.Basic

/-!
# The catalog of features

A feature is something whose use shows which edition a program needs. The catalog lists the features
in a fixed order, each with the edition that introduced it; two features of one edition stay
different features.
-/

set_option autoImplicit false

namespace EcmaEdition

/-- The features that can be detected, in catalog order. -/
inductive Feature where
  | exponentiationOperator
  | objectValuesEntries
  | objectGetOwnPropertyDescriptors
  | asyncFunctions
  | sharedMemoryAndAtomics
  | regexpDotAllFlag
  | restSpreadProperties
  | regexpLookbehindAssertions
  | regexpUnicodePropertyEscapes
  | regexpNamedCaptureGroups
  | asyncIteration
  | optionalCatchBinding
  | objectFromEntries
  | bigint
  | promiseAllSettled
  | globalThis
  | forInMechanics
  | optionalChaining
  | nullishCoalescingOperator
  | dynamicImport
  | importMeta
  | promiseAny
  | logicalAssignmentOperators
  | numericSeparators
  | weakReferences
  | classFields
  | regexpMatchIndices
  | topLevelAwait
  | privateFieldBrandChecks
  | objectHasOwn
  | classStaticBlock
  | errorCause
  | hashbangGrammar
  | atomicsWaitAsync
  | regexpVFlag
  | arrayGrouping
  | promiseWithResolvers
  | resizableArrayBuffers
  | duplicateNamedCaptureGroups
  | regexpModifiers
  | promiseTry
  | regexpEscape
  | float16Array
  deriving DecidableEq, Repr

namespace Feature

/-- All features in catalog order. -/
def all : List Feature := [
  .exponentiationOperator, .objectValuesEntries, .objectGetOwnPropertyDescriptors,
  .asyncFunctions, .sharedMemoryAndAtomics, .regexpDotAllFlag, .restSpreadProperties,
  .regexpLookbehindAssertions, .regexpUnicodePropertyEscapes, .regexpNamedCaptureGroups,
  .asyncIteration, .optionalCatchBinding, .objectFromEntries, .bigint, .promiseAllSettled,
  .globalThis, .forInMechanics, .optionalChaining, .nullishCoalescingOperator, .dynamicImport,
  .importMeta, .promiseAny, .logicalAssignmentOperators, .numericSeparators, .weakReferences,
  .classFields, .regexpMatchIndices, .topLevelAwait, .privateFieldBrandChecks, .objectHasOwn,
  .classStaticBlock, .errorCause, .hashbangGrammar, .atomicsWaitAsync, .regexpVFlag,
  .arrayGrouping, .promiseWithResolvers, .resizableArrayBuffers, .duplicateNamedCaptureGroups,
  .regexpModifiers, .promiseTry, .regexpEscape, .float16Array]

/-- The identifier of a feature in data. -/
def name : Feature → String
  | .exponentiationOperator => "EXPONENTIATION_OPERATOR"
  | .objectValuesEntries => "OBJECT_VALUES_ENTRIES"
  | .objectGetOwnPropertyDescriptors => "OBJECT_GET_OWN_PROPERTY_DESCRIPTORS"
  | .asyncFunctions => "ASYNC_FUNCTIONS"
  | .sharedMemoryAndAtomics => "SHARED_MEMORY_AND_ATOMICS"
  | .regexpDotAllFlag => "REGEXP_DOT_ALL_FLAG"
  | .restSpreadProperties => "REST_SPREAD_PROPERTIES"
  | .regexpLookbehindAssertions => "REGEXP_LOOKBEHIND_ASSERTIONS"
  | .regexpUnicodePropertyEscapes => "REGEXP_UNICODE_PROPERTY_ESCAPES"
  | .regexpNamedCaptureGroups => "REGEXP_NAMED_CAPTURE_GROUPS"
  | .asyncIteration => "ASYNC_ITERATION"
  | .optionalCatchBinding => "OPTIONAL_CATCH_BINDING"
  | .objectFromEntries => "OBJECT_FROM_ENTRIES"
  | .bigint => "BIGINT"
  | .promiseAllSettled => "PROMISE_ALL_SETTLED"
  | .globalThis => "GLOBAL_THIS"
  | .forInMechanics => "FOR_IN_MECHANICS"
  | .optionalChaining => "OPTIONAL_CHAINING"
  | .nullishCoalescingOperator => "NULLISH_COALESCING_OPERATOR"
  | .dynamicImport => "DYNAMIC_IMPORT"
  | .importMeta => "IMPORT_META"
  | .promiseAny => "PROMISE_ANY"
  | .logicalAssignmentOperators => "LOGICAL_ASSIGNMENT_OPERATORS"
  | .numericSeparators => "NUMERIC_SEPARATORS"
  | .weakReferences => "WEAK_REFERENCES"
  | .classFields => "CLASS_FIELDS"
  | .regexpMatchIndices => "REGEXP_MATCH_INDICES"
  | .topLevelAwait => "TOP_LEVEL_AWAIT"
  | .privateFieldBrandChecks => "PRIVATE_FIELD_BRAND_CHECKS"
  | .objectHasOwn => "OBJECT_HAS_OWN"
  | .classStaticBlock => "CLASS_STATIC_BLOCK"
  | .errorCause => "ERROR_CAUSE"
  | .hashbangGrammar => "HASHBANG_GRAMMAR"
  | .atomicsWaitAsync => "ATOMICS_WAIT_ASYNC"
  | .regexpVFlag => "REGEXP_V_FLAG"
  | .arrayGrouping => "ARRAY_GROUPING"
  | .promiseWithResolvers => "PROMISE_WITH_RESOLVERS"
  | .resizableArrayBuffers => "RESIZABLE_ARRAY_BUFFERS"
  | .duplicateNamedCaptureGroups => "DUPLICATE_NAMED_CAPTURE_GROUPS"
  | .regexpModifiers => "REGEXP_MODIFIERS"
  | .promiseTry => "PROMISE_TRY"
  | .regexpEscape => "REGEXP_ESCAPE"
  | .float16Array => "FLOAT16_ARRAY"

/-- The title of a feature, as reports show it. -/
def title : Feature → String
  | .exponentiationOperator => "Exponentiation operator"
  | .objectValuesEntries => "Object.values / Object.entries"
  | .objectGetOwnPropertyDescriptors => "Object.getOwnPropertyDescriptors"
  | .asyncFunctions => "Async functions"
  | .sharedMemoryAndAtomics => "Shared memory and atomics"
  | .regexpDotAllFlag => "RegExp s (dotAll) flag"
  | .restSpreadProperties => "Rest/spread properties"
  | .regexpLookbehindAssertions => "RegExp lookbehind assertions"
  | .regexpUnicodePropertyEscapes => "RegExp Unicode property escapes"
  | .regexpNamedCaptureGroups => "RegExp named capture groups"
  | .asyncIteration => "Asynchronous iteration"
  | .optionalCatchBinding => "Optional catch binding"
  | .objectFromEntries => "Object.fromEntries"
  | .bigint => "BigInt"
  | .promiseAllSettled => "Promise.allSettled"
  | .globalThis => "globalThis"
  | .forInMechanics => "for-in mechanics"
  | .optionalChaining => "Optional chaining"
  | .nullishCoalescingOperator => "Nullish coalescing operator"
  | .dynamicImport => "Dynamic import()"
  | .importMeta => "import.meta"
  | .promiseAny => "Promise.any"
  | .logicalAssignmentOperators => "Logical assignment operators"
  | .numericSeparators => "Numeric separators"
  | .weakReferences => "WeakRef / FinalizationRegistry"
  | .classFields => "Class fields"
  | .regexpMatchIndices => "RegExp match indices (d flag)"
  | .topLevelAwait => "Top-level await"
  | .privateFieldBrandChecks => "Ergonomic brand checks for private fields"
  | .objectHasOwn => "Object.hasOwn"
  | .classStaticBlock => "Class static block"
  | .errorCause => "Error cause"
  | .hashbangGrammar => "Hashbang grammar"
  | .atomicsWaitAsync => "Atomics.waitAsync"
  | .regexpVFlag => "RegExp v flag with set notation and properties of strings"
  | .arrayGrouping => "Array grouping"
  | .promiseWithResolvers => "Promise.withResolvers"
  | .resizableArrayBuffers => "Resizable and growable ArrayBuffers"
  | .duplicateNamedCaptureGroups => "RegExp duplicate named capture groups"
  | .regexpModifiers => "RegExp pattern modifiers"
  | .promiseTry => "Promise.try"
  | .regexpEscape => "RegExp.escape"
  | .float16Array => "Float16Array"

/-- The edition that introduced a feature. -/
def edition : Feature → Edition
  | .exponentiationOperator => .es7
  | .objectValuesEntries | .objectGetOwnPropertyDescriptors | .asyncFunctions
  | .sharedMemoryAndAtomics => .es8
  | .regexpDotAllFlag | .restSpreadProperties | .regexpLookbehindAssertions
  | .regexpUnicodePropertyEscapes | .regexpNamedCaptureGroups | .asyncIteration => .es9
  | .optionalCatchBinding | .objectFromEntries => .es10
  | .bigint | .promiseAllSettled | .globalThis | .forInMechanics | .optionalChaining
  | .nullishCoalescingOperator | .dynamicImport | .importMeta => .es11
  | .promiseAny | .logicalAssignmentOperators | .numericSeparators | .weakReferences => .es12
  | .classFields | .regexpMatchIndices | .topLevelAwait | .privateFieldBrandChecks
  | .objectHasOwn | .classStaticBlock | .errorCause => .es13
  | .hashbangGrammar => .es14
  | .atomicsWaitAsync | .regexpVFlag | .arrayGrouping | .promiseWithResolvers
  | .resizableArrayBuffers => .es15
  | .duplicateNamedCaptureGroups | .regexpModifiers | .promiseTry | .regexpEscape
  | .float16Array => .es16

/-- The place of a feature in the catalog, counted from zero. -/
def index (feature : Feature) : Nat :=
  all.idxOf feature

/-- A feature yields to another when the other is of a later edition, or of the same edition and
earlier in the catalog. -/
def yieldsTo (a b : Feature) : Bool :=
  a.edition < b.edition || (a.edition == b.edition && b.index < a.index)

/-- The feature of the latest edition among some features. Of several from that edition it is the
one that comes first in the catalog, so neither order nor repetition matters. -/
def latest? : List Feature → Option Feature
  | [] => none
  | feature :: rest => some (rest.foldl (fun best f => if best.yieldsTo f then f else best) feature)

end Feature

end EcmaEdition
