import EcmaEdition.Proofs.Detection.Constructor
import EcmaEdition.Proofs.Detection.Escape
import EcmaEdition.Proofs.Detection.Pattern
import EcmaEdition.Proofs.Tree.Edit

/-!
# Templates and strings of the same parts

A template in which nothing is substituted is a constant, and it is made of fragments and escapes
like a string. With a fragment among its parts it is read part by part, as the string is. Without
one it is taken for a template of a grammar that has no nodes for fragments, and its characters are
read as they are written. So a template of nothing but escapes keeps the backslashes that the string
of the same parts loses (`template_exact`), and `RegExp` looks for features in another pattern.
-/

set_option autoImplicit false

namespace EcmaEdition.Rule

open EcmaEdition.Literal

/-- A part of a literal is a fragment or an escape. -/
def IsPart (part : Node) : Prop :=
  part.named = true ∧ (part.kind = "string_fragment" ∨ part.kind = "escape_sequence")

/-- What stands at the two ends of a literal: a leaf without a name. -/
def IsMark (node : Node) : Prop :=
  node.named = false ∧ node.children = []

/-- A literal has its parts between two marks. -/
def HasParts (node : Node) (parts : List Node) : Prop :=
  (∃ first last, node.children = first :: (parts ++ [last]) ∧ IsMark first ∧ IsMark last) ∧
    ∀ part ∈ parts, IsPart part

/-- A string of some parts. -/
structure IsString (node : Node) (parts : List Node) : Prop where
  kind : node.kind = "string"
  has : HasParts node parts

/-- A template of some parts. It covers a backtick, the texts of its parts, and a backtick. -/
structure IsTemplate (node : Node) (parts : List Node) : Prop where
  kind : node.kind = "template_string"
  has : HasParts node parts
  chars : node.chars = '\x60' :: (parts.flatMap Node.chars ++ ['\x60'])

/-- One of the parts is a fragment. -/
def HasFragment (parts : List Node) : Prop :=
  ∃ part ∈ parts, part.kind = "string_fragment"

instance (parts : List Node) : Decidable (HasFragment parts) :=
  inferInstanceAs (Decidable (∃ part ∈ parts, _))

/-- An escape of one character, which is the only one that is decoded. -/
def IsShort (part : Node) : Prop :=
  part.kind = "escape_sequence" ∧ part.chars.length = 2

/-- What a template is read as: the values of its parts if one of them is a fragment, and else their
texts. -/
def templateText (parts : List Node) : List Char :=
  if HasFragment parts then parts.flatMap partValue else parts.flatMap Node.chars

variable {node : Node} {parts : List Node}

/-- The named children of a literal are its parts, since its marks have no names. -/
theorem namedChildren_of_hasParts (has : HasParts node parts) : node.namedChildren = parts := by
  obtain ⟨⟨first, last, children, opening, closing⟩, areParts⟩ := has
  have named : parts.filter Node.named = parts :=
    List.filter_eq_self.mpr fun part listed => (areParts part listed).1
  rw [Node.namedChildren, children, List.filter_cons_of_neg (by simp [opening.1]),
    List.filter_append, named, List.filter_cons_of_neg (by simp [closing.1]), List.filter_nil,
    List.append_nil]

/-- No part is a substitution. -/
theorem any_substitution_of_areParts (areParts : ∀ part ∈ parts, IsPart part) :
    parts.any (·.kind == "template_substitution") = false := by
  rw [List.any_eq_false]
  intro part listed
  obtain ⟨-, kind | kind⟩ := areParts part listed <;> simp [kind]

/-- A string is read as the values of its parts. -/
theorem stringValue?_of_isString (string : IsString node parts) :
    stringValue? node = some (parts.flatMap partValue) := by
  rw [stringValue?, namedChildren_of_hasParts string.has]
  simp [string.kind, any_substitution_of_areParts string.has.2]

/-- A template is read as its template text. -/
theorem stringValue?_of_isTemplate (template : IsTemplate node parts) :
    stringValue? node = some (templateText parts) := by
  have fragments : parts.any (·.kind == "string_fragment") = decide (HasFragment parts) := by
    rw [Bool.eq_iff_iff, List.any_eq_true, decide_eq_true_eq]
    simp only [HasFragment, beq_iff_eq]
  have inner : (node.chars.drop 1).dropLast = parts.flatMap Node.chars := by
    rw [template.chars, List.drop_succ_cons, List.drop_zero, List.dropLast_concat]
  -- No part is a substitution, so it is only asked for a fragment.
  simp only [stringValue?, namedChildren_of_hasParts template.has, inner, fragments]
  by_cases fragment : HasFragment parts <;>
    simp [template.kind, any_substitution_of_areParts template.has.2, templateText, fragment]

/-! ## Where the two readings differ -/

/-- An escape of two characters is decoded as one. -/
theorem length_escapeValue {written : List Char} (two : written.length = 2) :
    (escapeValue written).length = 1 := by
  obtain ⟨a, b, rfl⟩ := List.length_eq_two.mp two
  rfl

/-- Any other escape is kept as it is written. -/
theorem escapeValue_of_length_ne_two {written : List Char} (other : written.length ≠ 2) :
    escapeValue written = written := by
  unfold escapeValue
  split
  · exact absurd rfl other
  · rfl

/-- The value of a part is its text, unless the part is an escape of one character. -/
theorem partValue_of_not_isShort {part : Node} (isPart : IsPart part) (long : ¬IsShort part) :
    partValue part = part.chars := by
  obtain fragment | escape := isPart.2
  · rw [partValue, if_pos fragment]
  · have other : part.chars.length ≠ 2 := fun two => long ⟨escape, two⟩
    rw [partValue, if_neg (by simp [escape]), if_pos escape, escapeValue_of_length_ne_two other]

/-- An escape of one character is longer than its value. -/
theorem length_partValue_lt {part : Node} (short : IsShort part) :
    (partValue part).length < part.chars.length := by
  obtain ⟨kind, two⟩ := short
  rw [partValue, if_neg (by simp [kind]), if_pos kind, length_escapeValue two, two]
  exact Nat.lt_succ_self 1

/-- The texts of some parts are their values if no part is an escape of one character. -/
theorem flatMap_chars_eq_iff (areParts : ∀ part ∈ parts, IsPart part) :
    parts.flatMap Node.chars = parts.flatMap partValue ↔ ∀ part ∈ parts, ¬IsShort part :=
  flatMap_eq_iff_of_longer (fun _ _ short => length_partValue_lt short)
    fun part listed long => (partValue_of_not_isShort (areParts part listed) long).symm

/-- A template is read as the values of its parts if it has a fragment or no escape of one
character. -/
theorem templateText_eq_iff (areParts : ∀ part ∈ parts, IsPart part) :
    templateText parts = parts.flatMap partValue ↔
      HasFragment parts ∨ ∀ part ∈ parts, ¬IsShort part := by
  by_cases fragment : HasFragment parts
  · simp [templateText, fragment]
  · rw [templateText, if_neg fragment, flatMap_chars_eq_iff areParts, or_iff_right fragment]

/-! ## What a literal shows by itself -/

/-- A literal shows what its parts show. -/
theorem walk_of_hasParts (kind : node.kind = "string" ∨ node.kind = "template_string")
    (has : HasParts node parts) (scope : Scope) :
    Finder.walk scope node = FeatureSet.unions (parts.map (Finder.walk scope)) := by
  have ruleless : Ruleless node.kind := by
    obtain kind | kind := kind <;> rw [kind] <;> decide
  have below : scope.below node = scope := by
    obtain kind | kind := kind <;> simp [Scope.below, isFunction, kind, functionKinds]
  obtain ⟨⟨first, last, children, opening, closing⟩, -⟩ := has
  have openingShows := Finder.walk_of_bare_leaf opening.2 (.inl opening.1) scope
  have closingShows := Finder.walk_of_bare_leaf closing.2 (.inl closing.1) scope
  rw [Finder.walk_of_ruleless ruleless, below, children, List.map_cons, List.map_append,
    List.map_singleton, FeatureSet.unions_cons, FeatureSet.unions_append, openingShows,
    FeatureSet.empty_union]
  simp [closingShows]

/-! ## Regular expressions -/

/-- Two arguments are alike if they have one value and show the same by themselves. -/
structure Alike (a b : Node) : Prop where
  value : stringValue? a = stringValue? b
  shows : Finder.find a = Finder.find b

/-- Arguments make the same regular expression as arguments that are alike. -/
theorem find_of_alike {form other : Form} {node node' : Node} {args others : List Node}
    (applies : Applies form node args) (applies' : Applies other node' others)
    (alike : List.Forall₂ Alike args others) : Finder.find node = Finder.find node' := by
  have value : ∀ place : Nat,
      (args[place]?.bind stringValue?).getD [] = (others[place]?.bind stringValue?).getD [] := by
    intro place
    obtain ⟨none, none'⟩ | ⟨a, b, here, there, pair⟩ := Node.getElem?_of_forall₂ alike place
    · rw [none, none']
    · rw [here, there, Option.bind_some, Option.bind_some, pair.value]
  have shows : args.map Finder.find = others.map Finder.find :=
    Node.map_eq_of_forall₂ (fun _ _ pair => pair.shows) alike
  rw [find_of_applies_arguments applies, find_of_applies_arguments applies', regexpConstructor,
    regexpConstructor, value, value, shows]

/-- A template and a string of the same parts are alike where the template is read as the values of
them. -/
theorem alike_of_readable {template string : Node} (isTemplate : IsTemplate template parts)
    (isString : IsString string parts)
    (readable : HasFragment parts ∨ ∀ part ∈ parts, ¬IsShort part) : Alike template string where
  value := by
    rw [stringValue?_of_isTemplate isTemplate, stringValue?_of_isString isString,
      (templateText_eq_iff isString.has.2).mpr readable]
  shows := by
    rw [Finder.find_eq_walk, Finder.find_eq_walk, walk_of_hasParts (.inr isTemplate.kind)
      isTemplate.has, walk_of_hasParts (.inl isString.kind) isString.has]

/-- A string of fragments and escapes has the values of its parts as its value. A template of the
same parts has this value if one of the parts is a fragment, and else it has their texts as they are
written; so the two have one value just if there is a fragment or no escape of one character. In
`RegExp` the template stands for its value. If the values are the same, then the template may stand
for the string anywhere among the arguments, with `new` or without. -/
theorem template_exact {template string : Node} {parts : List Node}
    (isTemplate : IsTemplate template parts) (isString : IsString string parts) :
    stringValue? string = some (parts.flatMap partValue) ∧
      stringValue? template = some (if HasFragment parts then parts.flatMap partValue
        else parts.flatMap Node.chars) ∧
      (stringValue? template = stringValue? string ↔
        HasFragment parts ∨ ∀ part ∈ parts, ¬IsShort part) ∧
      (∀ (form : Form) (node : Node) (rest : List Node), Applies form node (template :: rest) →
        Finder.find node =
          Pattern.features (templateText parts) ((rest.head?.bind stringValue?).getD []) ∪
            FeatureSet.unions ((template :: rest).map Finder.find)) ∧
      (HasFragment parts ∨ (∀ part ∈ parts, ¬IsShort part) →
        ∀ (form other : Form) (node node' : Node) (args others : List Node),
          Applies form node args → Applies other node' others →
          List.Forall₂ (fun a b => a = b ∨ a = template ∧ b = string) args others →
          Finder.find node = Finder.find node') := by
  have written := stringValue?_of_isTemplate isTemplate
  have decoded := stringValue?_of_isString isString
  refine ⟨decoded, written, ?_, ?_, ?_⟩
  · rw [written, decoded, Option.some_inj, templateText_eq_iff isString.has.2]
  · intro form node rest applies
    rw [find_of_applies_arguments applies, regexpConstructor]
    simp [written, List.head?_eq_getElem?]
  · intro readable form other node node' args others applies applies' replaced
    refine find_of_alike applies applies' (replaced.imp ?_)
    rintro a b (rfl | ⟨rfl, rfl⟩)
    · exact ⟨rfl, rfl⟩
    · exact alike_of_readable isTemplate isString readable

/-! ## Templates of each kind -/

/-- A template of some parts. -/
def templated (parts : List Node) : Node :=
  let whole := '\x60' :: (parts.flatMap Node.chars ++ ['\x60'])
  ⟨{ kind := "template_string", text := some (Text.encode whole).toByteArray },
    ⟨{ kind := "\x60", named := false }, []⟩ ::
      (parts ++ [⟨{ kind := "\x60", named := false }, []⟩])⟩

/-- The template that is built from some parts is one of these parts. -/
theorem isTemplate_templated (areParts : ∀ part ∈ parts, IsPart part) :
    IsTemplate (templated parts) parts where
  kind := rfl
  has := ⟨⟨_, _, rfl, ⟨rfl, rfl⟩, ⟨rfl, rfl⟩⟩, areParts⟩
  chars := Node.chars_of_covers ⟨_, rfl, Text.toList_toByteArray _⟩

/-- The string that is built from some parts is one of these parts. -/
theorem isString_quoted (areParts : ∀ part ∈ parts, IsPart part) :
    IsString (quoted parts) parts where
  kind := rfl
  has := ⟨⟨_, _, rfl, ⟨rfl, rfl⟩, ⟨rfl, rfl⟩⟩, areParts⟩

/-- A fragment is a part. -/
theorem isPart_fragment (text : List Char) : IsPart (fragment text) :=
  ⟨rfl, Or.inl rfl⟩

/-- An escape of one character is a part. -/
theorem isPart_escape (c : Char) : IsPart (escape c) :=
  ⟨rfl, Or.inr rfl⟩

/-- The value of a fragment is its text. -/
theorem partValue_fragment (text : List Char) : partValue (fragment text) = text := by
  simp [partValue, fragment]

/-- The value of an escape is the character that it is decoded as. -/
theorem partValue_escape (c : Char) : partValue (escape c) = [escapedChar c] := by
  simp [partValue, escape, escapeValue]

/-- A literal whose parts are leaves shows nothing by itself. -/
theorem find_of_hasParts (kind : node.kind = "string" ∨ node.kind = "template_string")
    (has : HasParts node parts) (leaves : ∀ part ∈ parts, part.children = []) :
    Finder.find node = ∅ := by
  rw [Finder.find_eq_walk, walk_of_hasParts kind has]
  apply FeatureSet.unions_map_eq_empty
  intro part listed
  refine Finder.walk_of_bare_leaf (leaves part listed) (.inr ?_) _
  obtain ⟨-, kind | kind⟩ := has.2 part listed <;> rw [kind] <;> decide

/-- Applied to a literal of leaves, `RegExp` looks for a lookbehind in the literal's value. -/
theorem lookbehind_mem_find_iff {form : Form} {text : List Char} (named : node.named = true)
    (kind : node.kind = "string" ∨ node.kind = "template_string") (has : HasParts node parts)
    (leaves : ∀ part ∈ parts, part.children = []) (value : stringValue? node = some text) :
    .regexpLookbehindAssertions ∈ Finder.find (application form [node]) ↔
      Pattern.occursUnescaped Pattern.opensLookbehind false text = true := by
  have noComment : node.kind ≠ "comment" := by
    obtain kind | kind := kind <;> simp [kind]
  have applies := applies_application form (.argument named noComment .nil)
  rw [find_of_applies_arguments applies, List.map_singleton, FeatureSet.unions_cons,
    find_of_hasParts kind has leaves, regexpConstructor]
  simp [value, Pattern.mem_features_iff]

/-- The parts of a lookbehind, in which a backslash is escaped. -/
def lookbehindParts : List Node :=
  [fragment "(?<=".toList, escape '\\', fragment "d)".toList]

/-- The parts of the lookbehind are parts. -/
theorem isPart_lookbehindParts : ∀ part ∈ lookbehindParts, IsPart part := by
  simp [lookbehindParts, isPart_fragment, isPart_escape]

/-- Their values make the lookbehind. -/
theorem flatMap_lookbehindParts : lookbehindParts.flatMap partValue = lookbehind := by
  rw [lookbehindParts, List.flatMap_cons, List.flatMap_cons, List.flatMap_singleton,
    partValue_fragment, partValue_escape, partValue_fragment]
  decide

/-- With fragments around the escape, a template is read as the string and the lookbehind in it is
found. -/
theorem template_exact_lookbehind :
    stringValue? (templated lookbehindParts) = some lookbehind ∧
      .regexpLookbehindAssertions ∈
        Finder.find (application .construction [templated lookbehindParts]) ∧
      Finder.find (application .construction [templated lookbehindParts]) =
        Finder.find (application .call [quoted lookbehindParts]) := by
  have isTemplate := isTemplate_templated isPart_lookbehindParts
  have isString := isString_quoted isPart_lookbehindParts
  have hasFragment : HasFragment lookbehindParts := ⟨_, List.mem_cons_self, rfl⟩
  obtain ⟨decoded, -, agree, -, regexp⟩ := template_exact isTemplate isString
  rw [flatMap_lookbehindParts] at decoded
  have value := (agree.mpr (Or.inl hasFragment)).trans decoded
  refine ⟨value, ?_, ?_⟩
  · rw [lookbehind_mem_find_iff rfl (.inr rfl) isTemplate.has (by decide) value]
    decide
  · exact regexp (Or.inl hasFragment) _ _ _ _ _ _
      (applies_application .construction (.argument rfl (by decide) .nil))
      (applies_application .call (.argument rfl (by decide) .nil))
      (.cons (Or.inr ⟨rfl, rfl⟩) .nil)

/-- Escapes alone are parts. -/
theorem isPart_map_escape (text : List Char) : ∀ part ∈ text.map escape, IsPart part := by
  intro part listed
  obtain ⟨c, -, rfl⟩ := List.mem_map.mp listed
  exact isPart_escape c

/-- A template of escapes alone keeps every backslash. -/
theorem stringValue?_templated_map_escape (text : List Char) :
    stringValue? (templated (text.map escape)) = some (text.flatMap fun c => ['\\', c]) := by
  have noFragment : ¬HasFragment (text.map escape) := by
    rintro ⟨part, listed, kind⟩
    obtain ⟨c, -, rfl⟩ := List.mem_map.mp listed
    exact absurd kind (by simp [escape])
  rw [stringValue?_of_isTemplate (isTemplate_templated (isPart_map_escape text)), templateText,
    if_neg noFragment, List.flatMap_map]
  simp [escape]

/-- A string of escapes alone keeps none. -/
theorem stringValue?_quoted_map_escape (text : List Char) :
    stringValue? (quoted (text.map escape)) = some (text.map escapedChar) := by
  rw [stringValue?_of_isString (isString_quoted (isPart_map_escape text)), List.flatMap_map,
    List.map_eq_flatMap]
  simp only [partValue_escape]

/-- A template of nothing but escapes keeps the backslashes. So a line feed is read as two
characters, and the lookbehind of the string is not found. -/
theorem escapes_kept_in_template :
    IsTemplate (templated [escape 'n']) [escape 'n'] ∧ IsString (quoted [escape 'n']) [escape 'n'] ∧
      stringValue? (templated [escape 'n']) = some ['\\', 'n'] ∧
      stringValue? (quoted [escape 'n']) = some ['\n'] ∧
      .regexpLookbehindAssertions ∈
        Finder.find (application .construction [quoted ("(?<=a)".toList.map escape)]) ∧
      .regexpLookbehindAssertions ∉
        Finder.find (application .construction [templated ("(?<=a)".toList.map escape)]) := by
  have lineFeed := isPart_map_escape ['n']
  have opening := isPart_map_escape "(?<=a)".toList
  have leaves : ∀ part ∈ "(?<=a)".toList.map escape, part.children = [] := by decide
  refine ⟨isTemplate_templated lineFeed, isString_quoted lineFeed,
    stringValue?_templated_map_escape ['n'], stringValue?_quoted_map_escape ['n'], ?_, ?_⟩
  · rw [lookbehind_mem_find_iff rfl (.inl rfl) (isString_quoted opening).has leaves
      (stringValue?_quoted_map_escape _)]
    decide
  · rw [lookbehind_mem_find_iff rfl (.inr rfl) (isTemplate_templated opening).has leaves
      (stringValue?_templated_map_escape _)]
    decide

end EcmaEdition.Rule
