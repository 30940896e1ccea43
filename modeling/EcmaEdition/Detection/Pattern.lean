import EcmaEdition.Feature.Set
import EcmaEdition.Text.Alphanumeric

/-!
# Regular expressions

What a regular expression shows by its flags and its pattern. The pattern is not parsed. It is
searched for a few forms that begin with an opening parenthesis; a parenthesis right after a
backslash is taken to be escaped, and nothing else of the text before it is looked at.
-/

set_option autoImplicit false

namespace EcmaEdition.Pattern

open EcmaEdition.Text

/-- A letter, a dollar sign or an underscore of ASCII, which may begin a group's name. -/
def isNameStart (c : Char) : Bool :=
  ('a' ≤ c && c ≤ 'z') || ('A' ≤ c && c ≤ 'Z') || c = '_' || c = '$'

/-- A character that may continue a group's name. -/
def isNamePart (c : Char) : Bool :=
  isWordChar c || c = '$'

/-- A flag that a group may set or clear. -/
def isModifier (c : Char) : Bool :=
  c = 'i' || c = 'm' || c = 's'

/-- A lookbehind opens with `(?<=` or `(?<!`. -/
def opensLookbehind : List Char → Bool
  | '(' :: '?' :: '<' :: c :: _ => c = '=' || c = '!'
  | _ => false

/-- A modifier group opens with `(?`, flags to set, and possibly a hyphen and flags to clear, up to
a colon. It names at least one flag or sets some before the hyphen. -/
def opensModifiers : List Char → Bool
  | '(' :: '?' :: rest =>
    let added := rest.takeWhile isModifier
    match rest.dropWhile isModifier with
    | ':' :: _ => !added.isEmpty
    | '-' :: more =>
      let removed := more.takeWhile isModifier
      match more.dropWhile isModifier with
      | ':' :: _ => !added.isEmpty || !removed.isEmpty
      | _ => false
    | _ => false
  | _ => false

/-- The name of a group that opens with `(?<`, the name, and `>`. -/
def groupName? : List Char → Option (List Char)
  | '(' :: '?' :: '<' :: c :: rest =>
    if isNameStart c then
      match rest.dropWhile isNamePart with
      | '>' :: _ => some (c :: rest.takeWhile isNamePart)
      | _ => none
    else none
  | _ => none

/-- A property escape is `\p{` or `\P{`. -/
def opensProperty : List Char → Bool
  | '\\' :: c :: '\x7b' :: _ => c = 'p' || c = 'P'
  | _ => false

/-- Whether a form opens at some place that no backslash precedes. The flag says whether one
precedes the text. -/
def occursUnescaped (opens : List Char → Bool) : Bool → List Char → Bool
  | _, [] => false
  | escaped, c :: rest =>
    (!escaped && opens (c :: rest)) || occursUnescaped opens (c = '\\') rest

/-- Whether a form opens anywhere. -/
def occurs (opens : List Char → Bool) : List Char → Bool
  | [] => false
  | c :: rest => opens (c :: rest) || occurs opens rest

/-- The names of the groups from left to right. After a group's opening the search goes on behind
it, which is after a `>`. The flag says whether a backslash precedes the text. -/
def groupNamesFrom (escaped : Bool) (text : List Char) : List (List Char) :=
  match text with
  | [] => []
  | c :: rest =>
    match if escaped then none else groupName? (c :: rest) with
    | some name => name :: groupNamesFrom false (rest.drop (name.length + 3))
    | none => groupNamesFrom (c = '\\') rest
termination_by text.length

/-- The names of the groups of a pattern. -/
def groupNames (pattern : List Char) : List (List Char) :=
  groupNamesFrom false pattern

/-- Whether a list of names has one of them twice. -/
def hasRepeated : List (List Char) → Bool
  | [] => false
  | name :: rest => rest.contains name || hasRepeated rest

/-- What the flags show by themselves. -/
def flagFeatures (flags : List Char) : FeatureSet :=
  FeatureSet.onlyIf (flags.contains 's') .regexpDotAllFlag ∪
    FeatureSet.onlyIf (flags.contains 'd') .regexpMatchIndices ∪
      FeatureSet.onlyIf (flags.contains 'v') .regexpVFlag

/-- What a regular expression shows: its flags, its lookbehinds, its property escapes if it has the
`u` flag, its named groups and whether two of them share a name, and its modifier groups. -/
def features (pattern flags : List Char) : FeatureSet :=
  let names := groupNames pattern
  flagFeatures flags ∪
    FeatureSet.onlyIf (occursUnescaped opensLookbehind false pattern)
      .regexpLookbehindAssertions ∪
    FeatureSet.onlyIf (occurs opensProperty pattern && flags.contains 'u')
      .regexpUnicodePropertyEscapes ∪
    FeatureSet.onlyIf (!names.isEmpty) .regexpNamedCaptureGroups ∪
    FeatureSet.onlyIf (hasRepeated names) .duplicateNamedCaptureGroups ∪
    FeatureSet.onlyIf (occursUnescaped opensModifiers false pattern) .regexpModifiers

end EcmaEdition.Pattern
