import EcmaEdition.Proofs.Detection.Pattern

/-!
# Patterns read element by element

A pattern is made of elements: an escape is a backslash together with the character behind it, and
any other character stands by itself. An element `[` opens a class of characters, which ends at the
next element `]`. A parenthesis opens a group only if it is an element and not a part of an escape.

The search for groups knows nothing of elements. It looks at one character before a parenthesis, and
this tells an escaped parenthesis from one that stands by itself unless the character is the second
one of an escape. So what the search finds is described by elements up to parentheses directly
behind an escaped backslash, and classes make no difference to it (`shown_by_elements`).
-/

set_option autoImplicit false

namespace EcmaEdition.Pattern

/-- An element of a pattern. -/
inductive Element where
  | escape (c : Char)
  | single (c : Char)
  deriving DecidableEq

/-- An element where it is read. -/
structure Reading where
  element : Element
  /-- The element before it. -/
  previous : Option Element
  /-- Whether it lies in a class. -/
  inClass : Bool
  /-- The text behind it. -/
  rest : List Char

/-- The elements of a text from left to right, behind a given element. -/
def readFrom (previous : Option Element) (inClass : Bool) : List Char → List Reading
  | [] => []
  | '\\' :: c :: rest =>
    ⟨.escape c, previous, inClass, rest⟩ :: readFrom (some (.escape c)) inClass rest
  | c :: rest =>
    ⟨.single c, previous, inClass, rest⟩ ::
      readFrom (some (.single c)) (c = '[' || inClass && c ≠ ']') rest

/-- The elements of a pattern from left to right. -/
def read (pattern : List Char) : List Reading :=
  readFrom none false pattern

/-- A form begins at an element that is an opening parenthesis. -/
def Reading.Begins (reading : Reading) (form : List Char) : Prop :=
  reading.element = .single '(' ∧ form <+: '(' :: reading.rest

instance (reading : Reading) (form : List Char) : Decidable (reading.Begins form) :=
  inferInstanceAs (Decidable (_ ∧ _))

/-- The openings of groups with a name. -/
def IsNamedHead (head : List Char) : Prop :=
  ∃ name, IsName name ∧ head = groupHead name

/-- A property escape is an escaped letter `p` or `P` with a brace behind it. -/
def Reading.IsProperty (reading : Reading) : Prop :=
  (reading.element = .escape 'p' ∨ reading.element = .escape 'P') ∧ ['\x7b'] <+: reading.rest

/-! ## The searches by elements -/

/-- A group name is read where the head of a named group stands. -/
theorem isSome_groupName?_iff_head (text : List Char) :
    (groupName? text).isSome = true ↔ ∃ head, IsNamedHead head ∧ head <+: text := by
  rw [Option.isSome_iff_exists]
  constructor
  · rintro ⟨name, found⟩
    obtain ⟨isName, begins⟩ := (groupName?_eq_some_iff text name).mp found
    exact ⟨_, ⟨name, isName, rfl⟩, begins⟩
  · rintro ⟨-, ⟨name, isName, rfl⟩, begins⟩
    exact ⟨name, (groupName?_eq_some_iff text name).mpr ⟨isName, begins⟩⟩

/-- A pattern has group names if a named group opens in it behind no backslash. -/
theorem groupNames_ne_nil_iff_occurs (pattern : List Char) :
    groupNames pattern ≠ [] ↔
      occursUnescaped (fun text => (groupName? text).isSome) false pattern = true := by
  rw [groupNames_ne_nil_iff, occursUnescaped_iff rfl]
  simp only [GroupAt, Option.isSome_iff_exists, exists_and_left]

/-- The head of a lookbehind begins with a parenthesis. -/
theorem paren_of_isLookbehindHead {head : List Char} (isHead : IsLookbehindHead head) :
    head.head? = some '(' := by
  obtain rfl | rfl := isHead <;> rfl

/-- The head of a named group begins with a parenthesis. -/
theorem paren_of_isNamedHead {head : List Char} (isHead : IsNamedHead head) :
    head.head? = some '(' := by
  obtain ⟨name, -, rfl⟩ := isHead
  rfl

/-- The head of a group with modifiers begins with a parenthesis. -/
theorem paren_of_isModifierHead {head : List Char} (isHead : IsModifierHead head) :
    head.head? = some '(' := by
  obtain ⟨added, removed, -, -, ⟨-, rfl⟩ | ⟨-, rfl⟩⟩ := isHead <;> rfl

section Groups

variable {opens : List Char → Bool} {heads : List Char → Prop}

/-- A form that begins with a parenthesis opens at no other character. -/
theorem not_opens_of_ne (opens_iff : ∀ text, opens text = true ↔ ∃ head, heads head ∧ head <+: text)
    (paren : ∀ head, heads head → head.head? = some '(') {c : Char} (other : c ≠ '(')
    (rest : List Char) : opens (c :: rest) = false := by
  rw [Bool.eq_false_iff, ne_eq, opens_iff]
  rintro ⟨head, isHead, begins⟩
  have first := paren head isHead
  cases head with
  | nil => cases first
  | cons d more =>
    obtain ⟨rfl, -⟩ := List.cons_prefix_cons.mp begins
    exact other (Option.some.inj first)

/-- The search for an unescaped opening finds the elements at which one begins, those directly
behind an escaped backslash left out. -/
theorem occursUnescaped_iff_read
    (opens_iff : ∀ text, opens text = true ↔ ∃ head, heads head ∧ head <+: text)
    (paren : ∀ head, heads head → head.head? = some '(') (previous : Option Element)
    (inClass : Bool) (text : List Char) :
    occursUnescaped opens (previous = some (.escape '\\')) text = true ↔
      ∃ reading ∈ readFrom previous inClass text,
        reading.previous ≠ some (.escape '\\') ∧ ∃ head, heads head ∧ reading.Begins head := by
  induction previous, inClass, text using readFrom.induct with
  | case1 previous inClass => simp [occursUnescaped, readFrom]
  | case2 previous inClass c rest ih =>
    -- the first character is no parenthesis, and the second one stands behind a backslash
    have hfirst : opens ('\\' :: c :: rest) = false :=
      not_opens_of_ne opens_iff paren (by decide) _
    have hflag : (some (Element.escape c) = some (Element.escape '\\')) ↔ c = '\\' := by simp
    rw [readFrom, occursUnescaped, occursUnescaped, hfirst]
    simp only [hflag] at ih
    simp [ih, Reading.Begins]
  | case3 previous inClass c rest single ih =>
    have hflag : occursUnescaped opens (c = '\\') rest =
        occursUnescaped opens (some (Element.single c) = some (Element.escape '\\')) rest := by
      cases rest with
      | nil => rfl
      | cons d rest =>
        have hc : c ≠ '\\' := fun same => single d rest same rfl
        simp [hc]
    have hhere : opens (c :: rest) = true ↔
        ∃ head, heads head ∧ Reading.Begins ⟨.single c, previous, inClass, rest⟩ head := by
      by_cases hc : c = '('
      · subst hc
        simp [opens_iff, Reading.Begins]
      · simp [not_opens_of_ne opens_iff paren hc, Reading.Begins, hc]
    rw [occursUnescaped, Bool.or_eq_true, hflag, ih, readFrom]
    · simp [hhere]
    · exact single

end Groups

/-- A property escape is found where one is read, and behind an escaped backslash where the text
goes on like one. -/
theorem occurs_opensProperty_iff_read (previous : Option Element) (inClass : Bool)
    (text : List Char) :
    occurs opensProperty text = true ↔
      ∃ reading ∈ readFrom previous inClass text, reading.IsProperty ∨
        reading.element = .escape '\\' ∧
          (['p', '\x7b'] <+: reading.rest ∨ ['P', '\x7b'] <+: reading.rest) := by
  induction previous, inClass, text using readFrom.induct with
  | case1 previous inClass => simp [occurs, readFrom]
  | case2 previous inClass c rest ih =>
    -- the search also tries the second character of the escape
    have hescape : opensProperty ('\\' :: c :: rest) = true ↔
        (c = 'p' ∨ c = 'P') ∧ ['\x7b'] <+: rest := by
      rw [opensProperty_iff]
      simp only [List.cons_prefix_cons, true_and, or_and_right, eq_comm]
    have hbehind : opensProperty (c :: rest) = true ↔
        c = '\\' ∧ (['p', '\x7b'] <+: rest ∨ ['P', '\x7b'] <+: rest) := by
      rw [opensProperty_iff]
      simp only [List.cons_prefix_cons, and_or_left, eq_comm]
    rw [readFrom, occurs, occurs, Bool.or_eq_true, Bool.or_eq_true, hescape, hbehind, ih]
    simp [Reading.IsProperty, or_assoc]
  | case3 previous inClass c rest single ih =>
    have hhere : opensProperty (c :: rest) = false := by
      rw [Bool.eq_false_iff, ne_eq, opensProperty_iff]
      cases rest with
      | nil => simp [List.cons_prefix_cons]
      | cons d rest =>
        have hc : c ≠ '\\' := fun same => single d rest same rfl
        simp [List.cons_prefix_cons, hc.symm]
    rw [readFrom, occurs, hhere, Bool.false_or, ih]
    · simp [Reading.IsProperty]
    · exact single

/-! ## Features by elements -/

/-- A pattern shows lookbehind if one opens behind no backslash. -/
theorem lookbehind_mem_iff (pattern flags : List Char) :
    .regexpLookbehindAssertions ∈ features pattern flags ↔
      occursUnescaped opensLookbehind false pattern = true := by
  simp [mem_features_iff]

/-- A pattern shows modifiers if a group with modifiers opens behind no backslash. -/
theorem modifiers_mem_iff (pattern flags : List Char) :
    .regexpModifiers ∈ features pattern flags ↔
      occursUnescaped opensModifiers false pattern = true := by
  simp [mem_features_iff]

/-- A pattern shows named groups if one opens behind no backslash. -/
theorem namedGroups_mem_iff (pattern flags : List Char) :
    .regexpNamedCaptureGroups ∈ features pattern flags ↔
      occursUnescaped (fun text => (groupName? text).isSome) false pattern = true := by
  simp [mem_features_iff, ← groupNames_ne_nil_iff_occurs]

/-- A pattern shows property escapes if it has the flag for Unicode and one occurs in it. -/
theorem propertyEscapes_mem_iff (pattern flags : List Char) :
    .regexpUnicodePropertyEscapes ∈ features pattern flags ↔
      'u' ∈ flags ∧ occurs opensProperty pattern = true := by
  simp [mem_features_iff]

/-- Something is shown if one of some forms begins at an element of a pattern, unless only directly
behind an escaped backslash, and it is shown only if one of the forms begins at an element. Whether
the element lies in a class makes no difference. -/
def ShownBy (heads : List Char → Prop) (pattern : List Char) (shown : Prop) : Prop :=
  ((∃ reading ∈ read pattern, reading.previous ≠ some (.escape '\\') ∧
      ∃ head, heads head ∧ reading.Begins head) → shown) ∧
    (shown → ∃ reading ∈ read pattern, ∃ head, heads head ∧ reading.Begins head)

/-- The search for a form that begins with a parenthesis finds it at the elements of a pattern. -/
theorem shownBy_occursUnescaped {opens : List Char → Bool} {heads : List Char → Prop}
    (opens_iff : ∀ text, opens text = true ↔ ∃ head, heads head ∧ head <+: text)
    (paren : ∀ head, heads head → head.head? = some '(') (pattern : List Char) :
    ShownBy heads pattern (occursUnescaped opens false pattern = true) := by
  have found := occursUnescaped_iff_read opens_iff paren none false pattern
  simp only [reduceCtorEq, decide_false] at found
  refine ⟨found.mpr, ?_⟩
  intro occurs
  obtain ⟨reading, member, -, begins⟩ := found.mp occurs
  exact ⟨reading, member, begins⟩

/-- Lookbehinds, modifier groups and groups with names are shown by the elements at which they
begin, in classes and outside of them; a group's name goes on with letters and numbers of any
script. With the flag `u`, a property escape among the elements is shown, and nothing else can be
taken for one but an escaped backslash with a letter `p` or `P` and a brace behind it. -/
theorem shown_by_elements (pattern flags : List Char) :
    ShownBy IsLookbehindHead pattern (.regexpLookbehindAssertions ∈ features pattern flags) ∧
      ShownBy IsModifierHead pattern (.regexpModifiers ∈ features pattern flags) ∧
      ShownBy IsNamedHead pattern (.regexpNamedCaptureGroups ∈ features pattern flags) ∧
      ('u' ∈ flags →
        ((∃ reading ∈ read pattern, reading.IsProperty) →
            .regexpUnicodePropertyEscapes ∈ features pattern flags) ∧
          (.regexpUnicodePropertyEscapes ∈ features pattern flags →
            ∃ reading ∈ read pattern, reading.IsProperty ∨
              reading.element = .escape '\\' ∧
                (['p', '\x7b'] <+: reading.rest ∨ ['P', '\x7b'] <+: reading.rest))) := by
  rw [lookbehind_mem_iff, modifiers_mem_iff, namedGroups_mem_iff, propertyEscapes_mem_iff]
  refine ⟨?_, ?_, ?_, ?_⟩
  · exact shownBy_occursUnescaped opensLookbehind_iff (fun _ => paren_of_isLookbehindHead) _
  · exact shownBy_occursUnescaped opensModifiers_iff (fun _ => paren_of_isModifierHead) _
  · exact shownBy_occursUnescaped isSome_groupName?_iff_head (fun _ => paren_of_isNamedHead) _
  · intro unicode
    rw [occurs_opensProperty_iff_read none false, read]
    constructor
    · rintro ⟨reading, member, property⟩
      exact ⟨unicode, reading, member, Or.inl property⟩
    · exact And.right

/-! ## Where elements and search differ -/

/-- A name of ASCII letters and digits, `_` and `$`, which does not begin with a digit. -/
def IsAsciiName (name : List Char) : Prop :=
  ∃ first rest, name = first :: rest ∧
    (first.isAlpha = true ∨ first = '_' ∨ first = '$') ∧
    ∀ c ∈ rest, c.isAlphanum = true ∨ c = '_' ∨ c = '$'

/-- What the features of a regular expression would be if they followed the elements of its pattern:
a group counts wherever it begins outside of a class, and nowhere else, names are of ASCII, and a
property escape counts only if it is an element. -/
structure FollowsElements (pattern flags : List Char) : Prop where
  lookbehind : .regexpLookbehindAssertions ∈ features pattern flags ↔
    ∃ reading ∈ read pattern, reading.inClass = false ∧
      ∃ head, IsLookbehindHead head ∧ reading.Begins head
  modifiers : .regexpModifiers ∈ features pattern flags ↔
    ∃ reading ∈ read pattern, reading.inClass = false ∧
      ∃ head, IsModifierHead head ∧ reading.Begins head
  namedGroups : .regexpNamedCaptureGroups ∈ features pattern flags ↔
    ∃ reading ∈ read pattern, reading.inClass = false ∧
      ∃ name, IsAsciiName name ∧ reading.Begins (groupHead name)
  propertyEscapes : 'u' ∈ flags → (.regexpUnicodePropertyEscapes ∈ features pattern flags ↔
    ∃ reading ∈ read pattern, reading.IsProperty)

instance (reading : Reading) : Decidable reading.IsProperty :=
  inferInstanceAs (Decidable (_ ∧ _))

/-- They do not follow the elements. A lookbehind is seen in the class of `[(?<=a]`, and a group
whose name goes on with a letter beyond ASCII is seen in `(?<aé>b)`. Behind an escaped backslash a
lookbehind is missed, and a letter `p` with a brace is taken for a property escape. -/
theorem not_followsElements :
    ¬FollowsElements ['[', '(', '?', '<', '=', 'a', ']'] [] ∧
      ¬FollowsElements ['(', '?', '<', 'a', 'é', '>', 'b', ')'] [] ∧
      ¬FollowsElements ['\\', '\\', '(', '?', '<', '=', 'a', ')'] [] ∧
      ¬FollowsElements ['\\', '\\', 'p', '\x7b', '2', '\x7d'] ['u'] := by
  refine ⟨?_, ?_, ?_, ?_⟩
  · rintro ⟨lookbehind, -, -, -⟩
    rw [lookbehind_mem_iff] at lookbehind
    obtain ⟨reading, member, outside, head, -, paren, -⟩ := lookbehind.mp (by decide)
    have none : ∀ reading ∈ read ['[', '(', '?', '<', '=', 'a', ']'],
        reading.inClass = false → reading.element ≠ .single '(' := by
      decide
    exact none reading member outside paren
  · rintro ⟨-, -, namedGroups, -⟩
    rw [namedGroups_mem_iff] at namedGroups
    obtain ⟨reading, member, -, name, ⟨first, tail, rfl, -, parts⟩, paren, begins⟩ :=
      namedGroups.mp (by decide +kernel)
    have only : ∀ reading ∈ read ['(', '?', '<', 'a', 'é', '>', 'b', ')'],
        reading.element = .single '(' → reading.rest = ['?', '<', 'a', 'é', '>', 'b', ')'] := by
      decide
    rw [only reading member paren] at begins
    -- the second character of the name is the one that is not of ASCII
    cases tail with
    | nil => simp [groupHead, List.cons_prefix_cons] at begins
    | cons second tail =>
      have hsecond : second = 'é' := by
        simp only [groupHead, List.cons_append, List.nil_append, List.cons_prefix_cons] at begins
        exact begins.2.2.2.2.1
      have part := parts second List.mem_cons_self
      rw [hsecond] at part
      revert part
      decide
  · rintro ⟨lookbehind, -, -, -⟩
    rw [lookbehind_mem_iff] at lookbehind
    have paren : ⟨.single '(', some (.escape '\\'), false, ['?', '<', '=', 'a', ')']⟩ ∈
        read ['\\', '\\', '(', '?', '<', '=', 'a', ')'] := by
      simp [read, readFrom]
    have missed := lookbehind.mpr ⟨_, paren, rfl, _, Or.inl rfl, by decide⟩
    revert missed
    decide
  · rintro ⟨-, -, -, propertyEscapes⟩
    have hu := propertyEscapes (by decide)
    rw [propertyEscapes_mem_iff] at hu
    exact absurd (hu.mp (by decide)) (by decide)

end EcmaEdition.Pattern
