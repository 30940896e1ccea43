import EcmaEdition.Proofs.Detection.Source
import EcmaEdition.Proofs.Detection.Walk
import EcmaEdition.Proofs.Text.Utf8

/-!
# Spellings of a text

A string literal spells a text in parts. Ordinary characters stand in fragments, each of which is a
run of them; a backslash, a quote and seven control characters are each written as a backslash and
a letter. The same text has many spellings, since a run may be cut into several fragments, but every
spelling is read as the text (`stringValue?_of_spells`). A literal shows no feature by itself.
-/

set_option autoImplicit false

namespace EcmaEdition

namespace Finder

open EcmaEdition.Rule

/-- A leaf that is not named, or of a kind without rules, shows nothing. -/
theorem walk_of_bare_leaf {node : Node} (leaf : node.children = [])
    (bare : node.named = false ∨ Ruleless node.kind) (scope : Scope) : walk scope node = ∅ := by
  have nothing : features scope node = ∅ := by
    unfold features
    obtain unnamed | ruleless := bare
    · simp [unnamed]
    · rw [ofKind_of_ruleless ruleless, ite_self]
  rw [walk_eq, nothing, leaf, List.map_nil, FeatureSet.unions_nil, FeatureSet.union_empty]

/-- A node of a kind without rules shows what its children show. -/
theorem walk_of_ruleless {node : Node} (ruleless : Ruleless node.kind) (scope : Scope) :
    walk scope node = FeatureSet.unions (node.children.map (walk (scope.below node))) := by
  rw [walk_eq, features, ofKind_of_ruleless ruleless, ite_self, FeatureSet.empty_union]

end Finder

namespace Literal

open EcmaEdition.Rule

/-- The letter behind the backslash of a character that is not written as it is. -/
def escapeLetter? : Char → Option Char
  | '\\' => some '\\'
  | '"' => some '"'
  | '\n' => some 'n'
  | '\r' => some 'r'
  | '\t' => some 't'
  | '\x08' => some 'b'
  | '\x0c' => some 'f'
  | '\x0b' => some 'v'
  | '\x00' => some '0'
  | _ => none

/-- The escape of a character stands for the character. -/
theorem escapedChar_of_escapeLetter? {c letter : Char} (written : escapeLetter? c = some letter) :
    escapedChar letter = c := by
  unfold escapeLetter? at written
  split at written <;> cases written <;> rfl

/-- The children of a string literal that spells a text: quotes, fragments of ordinary characters,
and escapes of the others. -/
inductive Parts : List Node → List Char → Prop where
  | nil : Parts [] []
  | quote {node : Node} {rest : List Node} {text : List Char} (unnamed : node.named = false)
      (leaf : node.children = []) (parts : Parts rest text) : Parts (node :: rest) text
  | fragment {node : Node} {rest : List Node} {run text : List Char} (named : node.named = true)
      (kind : node.kind = "string_fragment") (leaf : node.children = []) (covers : node.Covers run)
      (ordinary : ∀ c ∈ run, escapeLetter? c = none) (parts : Parts rest text) :
      Parts (node :: rest) (run ++ text)
  | escape {node : Node} {rest : List Node} {c letter : Char} {text : List Char}
      (named : node.named = true) (kind : node.kind = "escape_sequence") (leaf : node.children = [])
      (covers : node.Covers ['\\', letter]) (written : escapeLetter? c = some letter)
      (parts : Parts rest text) : Parts (node :: rest) (c :: text)

/-- A string literal spells a text. -/
structure Spells (node : Node) (text : List Char) : Prop where
  kind : node.kind = "string"
  parts : Parts node.children text

/-- The parts of a spelling have the text as their value. -/
theorem Parts.value {children : List Node} {text : List Char} (parts : Parts children text) :
    (children.filter Node.named).flatMap partValue = text := by
  induction parts with
  | nil => rfl
  | quote unnamed _ _ ih => rw [List.filter_cons_of_neg (by simp [unnamed]), ih]
  | @fragment node rest run text named kind _ covers _ _ ih =>
    have part : partValue node = run := by
      rw [partValue, if_pos kind, Node.chars_of_covers covers]
    rw [List.filter_cons_of_pos named, List.flatMap_cons, part, ih]
  | @escape node rest c letter text named kind _ covers written _ ih =>
    have part : partValue node = [c] := by
      rw [partValue, if_neg (by simp [kind]), if_pos kind, Node.chars_of_covers covers, escapeValue,
        escapedChar_of_escapeLetter? written]
    rw [List.filter_cons_of_pos named, List.flatMap_cons, part, ih, List.singleton_append]

/-- No part of a spelling is a substitution. -/
theorem Parts.kind_ne {children : List Node} {text : List Char} (parts : Parts children text) :
    ∀ part ∈ children, part.named = true → part.kind ≠ "template_substitution" := by
  induction parts with
  | nil => simp
  | quote unnamed _ _ ih => simpa [unnamed] using ih
  | fragment _ kind _ _ _ _ ih => simpa [kind] using ih
  | escape _ kind _ _ _ _ ih => simpa [kind] using ih

/-- No part of a spelling shows a feature. -/
theorem Parts.walk_eq_empty {children : List Node} {text : List Char} (parts : Parts children text)
    (scope : Scope) : ∀ part ∈ children, Finder.walk scope part = ∅ := by
  induction parts with
  | nil => simp
  | quote unnamed leaf _ ih =>
    exact List.forall_mem_cons.mpr ⟨Finder.walk_of_bare_leaf leaf (.inl unnamed) scope, ih⟩
  | fragment _ kind leaf _ _ _ ih =>
    have ruleless : Ruleless "string_fragment" := by decide
    rw [← kind] at ruleless
    exact List.forall_mem_cons.mpr ⟨Finder.walk_of_bare_leaf leaf (.inr ruleless) scope, ih⟩
  | escape _ kind leaf _ _ _ ih =>
    have ruleless : Ruleless "escape_sequence" := by decide
    rw [← kind] at ruleless
    exact List.forall_mem_cons.mpr ⟨Finder.walk_of_bare_leaf leaf (.inr ruleless) scope, ih⟩

variable {node : Node} {text : List Char}

/-- The value of a string without substitutions is put together from the values of its parts. -/
theorem stringValue?_string (kind : node.kind = "string")
    (plain : ∀ part ∈ node.children, part.named = true → part.kind ≠ "template_substitution") :
    stringValue? node = some (node.namedChildren.flatMap partValue) := by
  have constant : (node.namedChildren.any (·.kind == "template_substitution")) = false := by
    rw [List.any_eq_false]
    intro part listed
    obtain ⟨inside, named⟩ := List.mem_filter.mp listed
    simpa using plain part inside named
  simp [stringValue?, kind, constant]

/-- A literal that spells a text has the text as its value. -/
theorem stringValue?_of_spells (spells : Spells node text) : stringValue? node = some text := by
  rw [stringValue?_string spells.kind spells.parts.kind_ne]
  exact congrArg some spells.parts.value

/-- A literal shows no feature. -/
theorem walk_of_spells (spells : Spells node text) (scope : Scope) :
    Finder.walk scope node = ∅ := by
  have ruleless : Ruleless "string" := by decide
  rw [← spells.kind] at ruleless
  rw [Finder.walk_of_ruleless ruleless]
  exact FeatureSet.unions_map_eq_empty (spells.parts.walk_eq_empty _)

/-- The part of a literal for one character. -/
def spelledPart (c : Char) : Node :=
  match escapeLetter? c with
  | some letter => .leaf "escape_sequence" ['\\', letter]
  | none => .leaf "string_fragment" [c]

/-- A literal that spells a text character by character. -/
def spelling (text : List Char) : Node :=
  ⟨{ kind := "string" },
    ⟨{ kind := "\"", named := false }, []⟩ :: text.map spelledPart ++
      [⟨{ kind := "\"", named := false }, []⟩]⟩

/-- Every text has a spelling. -/
theorem spells_spelling (text : List Char) : Spells (spelling text) text := by
  refine ⟨rfl, .quote rfl rfl ?_⟩
  induction text with
  | nil => exact .quote rfl rfl .nil
  | cons c text ih =>
    rw [List.map_cons, spelledPart]
    cases written : escapeLetter? c with
    | some letter => exact .escape rfl rfl rfl (Node.covers_leaf _ _) written ih
    | none =>
      have ordinary : ∀ other ∈ [c], escapeLetter? other = none := by simpa using written
      exact .fragment rfl rfl rfl (Node.covers_leaf _ _) ordinary ih

end Literal

end EcmaEdition
