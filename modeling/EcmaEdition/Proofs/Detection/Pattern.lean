import EcmaEdition.Detection.Finder
import EcmaEdition.Proofs.Feature.Set
import Mathlib.Data.List.Duplicate
import Mathlib.Data.List.TakeWhile

/-!
# What a regular expression shows, by places

A regular expression is searched from left to right. Here the outcome is said without a search: a
feature is shown if its form stands at some place of the pattern, counted from zero, and for the
forms that open a group there is no backslash right before that place.

A search that goes through all places says this almost word for word. The search for group names
does not go through all places, since it goes on behind each group's opening. It loses nothing by
that: no parenthesis stands between the parenthesis that opens a group and the `>` behind its name,
so no group opens there (`namesAt_skip`). Hence two groups of one name are found wherever they
stand.
-/

set_option autoImplicit false

namespace EcmaEdition.Pattern

open EcmaEdition.Text

/-! ## Forms -/

/-- A form stands at a place of a text. -/
def StandsAt (form text : List Char) (place : Nat) : Prop :=
  form <+: text.drop place

/-- No backslash stands right before a place. -/
def Bare (text : List Char) (place : Nat) : Prop :=
  place = 0 ∨ text[place - 1]? ≠ some '\\'

/-- The openings of lookbehinds. -/
def IsLookbehindHead (head : List Char) : Prop :=
  head = ['(', '?', '<', '='] ∨ head = ['(', '?', '<', '!']

/-- A group's name is a letter of ASCII, `_` or `$`, and any letters and numbers, `_` and `$` behind
it. -/
def IsName (name : List Char) : Prop :=
  ∃ first rest, name = first :: rest ∧
    (first.isAlpha = true ∨ first = '_' ∨ first = '$') ∧
    ∀ c ∈ rest, isAlphanumeric c = true ∨ c = '_' ∨ c = '$'

/-- The opening of a group with a name. -/
def groupHead (name : List Char) : List Char :=
  ['(', '?', '<'] ++ name ++ ['>']

/-- The flags that a modifier group may name. -/
def AreModifiers (run : List Char) : Prop :=
  ∀ c ∈ run, c = 'i' ∨ c = 'm' ∨ c = 's'

/-- The openings of modifier groups: some flags to set, or a hyphen between flags to set and flags
to clear, not none of both. -/
def IsModifierHead (head : List Char) : Prop :=
  ∃ added removed, AreModifiers added ∧ AreModifiers removed ∧
    (added ≠ [] ∧ head = ['(', '?'] ++ added ++ [':'] ∨
      (added ≠ [] ∨ removed ≠ []) ∧ head = ['(', '?'] ++ added ++ ['-'] ++ removed ++ [':'])

/-- The longest run of some characters ends at a character that is none of them. -/
theorem span_iff {p : Char → Bool} {stop : Char} (stops : p stop = false)
    (text run rest : List Char) :
    text.takeWhile p = run ∧ text.dropWhile p = stop :: rest ↔
      (∀ c ∈ run, p c = true) ∧ text = run ++ stop :: rest := by
  constructor
  · rintro ⟨rfl, behind⟩
    refine ⟨?_, ?_⟩
    · intro c member
      exact List.mem_takeWhile_imp member
    · rw [← behind, List.takeWhile_append_dropWhile]
  · rintro ⟨all, rfl⟩
    rw [List.takeWhile_append_of_pos all, List.dropWhile_append_of_pos all]
    simp [stops]

/-- A group's name begins with a letter of ASCII, `_` or `$`. -/
theorem isNameStart_iff (c : Char) :
    isNameStart c = true ↔ c.isAlpha = true ∨ c = '_' ∨ c = '$' := by
  have letter : c.isAlpha = (decide ('A' ≤ c ∧ c ≤ 'Z') || ('a' ≤ c && c ≤ 'z')) := rfl
  simp only [isNameStart, letter, Bool.or_eq_true, Bool.and_eq_true, decide_eq_true_eq]
  tauto

/-- A group's name goes on with letters and numbers, `_` and `$`. -/
theorem isNamePart_iff (c : Char) :
    isNamePart c = true ↔ isAlphanumeric c = true ∨ c = '_' ∨ c = '$' := by
  simp only [isNamePart, isWordChar, Bool.or_eq_true, decide_eq_true_eq]
  tauto

/-- Three flags may be set and cleared inside a pattern. -/
theorem isModifier_iff (c : Char) : isModifier c = true ↔ c = 'i' ∨ c = 'm' ∨ c = 's' := by
  simp [isModifier, or_assoc]

/-- The bracket that closes a name is no part of it. -/
theorem isNamePart_angle : isNamePart '>' = false := by
  decide +kernel

/-- A parenthesis is no part of a name. -/
theorem isNamePart_paren : isNamePart '(' = false := by
  decide +kernel

/-- A lookbehind is found where one of its openings stands. -/
theorem opensLookbehind_iff (text : List Char) :
    opensLookbehind text = true ↔ ∃ head, IsLookbehindHead head ∧ head <+: text := by
  simp only [IsLookbehindHead, or_and_right, exists_or, exists_eq_left]
  unfold opensLookbehind
  split
  · simp only [Bool.or_eq_true, decide_eq_true_eq, List.cons_prefix_cons, List.nil_prefix, true_and,
      and_true]
    exact or_congr eq_comm eq_comm
  · rename_i shape
    refine iff_of_false Bool.false_ne_true ?_
    rintro (⟨more, rfl⟩ | ⟨more, rfl⟩) <;> exact shape _ _ rfl

/-- A property escape is found where one of its two openings stands. -/
theorem opensProperty_iff (text : List Char) :
    opensProperty text = true ↔
      ['\\', 'p', '\x7b'] <+: text ∨ ['\\', 'P', '\x7b'] <+: text := by
  unfold opensProperty
  split
  · simp only [Bool.or_eq_true, decide_eq_true_eq, List.cons_prefix_cons, List.nil_prefix, true_and,
      and_true]
    exact or_congr eq_comm eq_comm
  · rename_i shape
    refine iff_of_false Bool.false_ne_true ?_
    rintro (⟨more, rfl⟩ | ⟨more, rfl⟩) <;> exact shape _ _ rfl

/-- A name is read from a text if the text begins with the opening of a group of this name, and the
name that is read is the only one. -/
theorem groupName?_eq_some_iff (text name : List Char) :
    groupName? text = some name ↔ IsName name ∧ groupHead name <+: text := by
  constructor
  · intro found
    unfold groupName? at found
    split at found
    · rename_i first rest
      split at found
      · rename_i start
        split at found
        · rename_i more behind
          obtain rfl := Option.some.inj found
          obtain ⟨parts, whole⟩ := (span_iff isNamePart_angle rest _ more).mp ⟨rfl, behind⟩
          have hparts : ∀ c ∈ rest.takeWhile isNamePart,
              isAlphanumeric c = true ∨ c = '_' ∨ c = '$' :=
            fun c member => (isNamePart_iff c).mp (parts c member)
          refine ⟨⟨first, _, rfl, (isNameStart_iff first).mp start, hparts⟩, more, ?_⟩
          simpa [groupHead] using whole.symm
        · cases found
      · cases found
    · cases found
  · rintro ⟨⟨first, rest, rfl, start, parts⟩, more, rfl⟩
    have hparts : ∀ c ∈ rest, isNamePart c = true :=
      fun c member => (isNamePart_iff c).mpr (parts c member)
    obtain ⟨run, behind⟩ :=
      (span_iff isNamePart_angle (rest ++ '>' :: more) rest more).mpr ⟨hparts, rfl⟩
    simp [groupHead, groupName?, (isNameStart_iff first).mpr start, run, behind]

/-- A group with modifiers is found where one of its openings stands. -/
theorem opensModifiers_iff (text : List Char) :
    opensModifiers text = true ↔ ∃ head, IsModifierHead head ∧ head <+: text := by
  have hcolon : isModifier ':' = false := by decide
  have hhyphen : isModifier '-' = false := by decide
  constructor
  · intro opens
    unfold opensModifiers at opens
    split at opens
    · rename_i rest
      dsimp only at opens
      split at opens
      · rename_i more behind
        obtain ⟨added, whole⟩ := (span_iff hcolon rest _ more).mp ⟨rfl, behind⟩
        refine ⟨_, ⟨rest.takeWhile isModifier, [], ?_, ?_, Or.inl ⟨?_, rfl⟩⟩, more, ?_⟩
        · exact fun c member => (isModifier_iff c).mp (added c member)
        · exact nofun
        · simpa using opens
        · simpa using whole.symm
      · rename_i between behind
        split at opens
        · rename_i more further
          obtain ⟨added, whole⟩ := (span_iff hhyphen rest _ between).mp ⟨rfl, behind⟩
          obtain ⟨removed, rear⟩ := (span_iff hcolon between _ more).mp ⟨rfl, further⟩
          refine ⟨_, ⟨rest.takeWhile isModifier, between.takeWhile isModifier, ?_, ?_,
            Or.inr ⟨?_, rfl⟩⟩, more, ?_⟩
          · exact fun c member => (isModifier_iff c).mp (added c member)
          · exact fun c member => (isModifier_iff c).mp (removed c member)
          · simpa using opens
          · rw [rear] at whole
            simpa using whole.symm
        · cases opens
      · cases opens
    · cases opens
  · rintro ⟨head, ⟨added, removed, hadded, hremoved, form⟩, more, rfl⟩
    have madded : ∀ c ∈ added, isModifier c = true :=
      fun c member => (isModifier_iff c).mpr (hadded c member)
    have mremoved : ∀ c ∈ removed, isModifier c = true :=
      fun c member => (isModifier_iff c).mpr (hremoved c member)
    obtain ⟨nonempty, rfl⟩ | ⟨nonempty, rfl⟩ := form
    · obtain ⟨run, behind⟩ :=
        (span_iff hcolon (added ++ ':' :: more) added more).mpr ⟨madded, rfl⟩
      simp [opensModifiers, run, behind, nonempty]
    · obtain ⟨run, behind⟩ :=
        (span_iff hhyphen (added ++ '-' :: (removed ++ ':' :: more)) added _).mpr ⟨madded, rfl⟩
      obtain ⟨further, last⟩ :=
        (span_iff hcolon (removed ++ ':' :: more) removed more).mpr ⟨mremoved, rfl⟩
      simpa [opensModifiers, run, behind, further, last] using nonempty

/-! ## Searches -/

/-- No backslash stands right before a place, where a flag says whether one stands before the
text. -/
def BareFrom (escaped : Bool) (text : List Char) : Nat → Prop
  | 0 => escaped = false
  | place + 1 => text[place]? ≠ some '\\'

/-- At the beginning of a pattern no backslash stands before the text. -/
theorem bareFrom_false_iff (text : List Char) (place : Nat) :
    BareFrom false text place ↔ Bare text place := by
  cases place <;> simp [BareFrom, Bare]

/-- The first place is bare if no backslash stands before the text. -/
theorem bareFrom_zero_iff (escaped : Bool) (text : List Char) :
    BareFrom escaped text 0 ↔ escaped = false :=
  Iff.rfl

/-- Any other place is bare if it is so behind the first character. -/
theorem bareFrom_succ_iff (escaped : Bool) (c : Char) (rest : List Char) (place : Nat) :
    BareFrom escaped (c :: rest) (place + 1) ↔ BareFrom (c = '\\') rest place := by
  cases place <;> simp [BareFrom]

/-- A form is found unescaped if it opens at some place behind no backslash. -/
theorem occursUnescaped_iff {opens : List Char → Bool} (none : opens [] = false) (escaped : Bool)
    (text : List Char) :
    occursUnescaped opens escaped text = true ↔
      ∃ place, BareFrom escaped text place ∧ opens (text.drop place) = true := by
  induction text generalizing escaped with
  | nil => simp [occursUnescaped, none]
  | cons c rest ih =>
    rw [← Nat.or_exists_add_one, occursUnescaped, Bool.or_eq_true, ih]
    simp only [bareFrom_zero_iff, bareFrom_succ_iff, List.drop_succ_cons, List.drop_zero,
      Bool.and_eq_true, Bool.not_eq_true']

/-- The search for an unescaped opening of some sort finds it wherever it stands in the pattern
behind no backslash. -/
theorem occursUnescaped_iff_standsAt {opens : List Char → Bool} {heads : List Char → Prop}
    (opens_iff : ∀ text, opens text = true ↔ ∃ head, heads head ∧ head <+: text)
    (none : opens [] = false) (pattern : List Char) :
    occursUnescaped opens false pattern = true ↔
      ∃ place head, heads head ∧ StandsAt head pattern place ∧ Bare pattern place := by
  rw [occursUnescaped_iff none]
  simp only [opens_iff, bareFrom_false_iff]
  constructor
  · rintro ⟨place, bare, head, isHead, stands⟩
    exact ⟨place, head, isHead, stands, bare⟩
  · rintro ⟨place, head, isHead, stands, bare⟩
    exact ⟨place, bare, head, isHead, stands⟩

/-- A form occurs if it opens at some place. -/
theorem occurs_iff {opens : List Char → Bool} (none : opens [] = false) (text : List Char) :
    occurs opens text = true ↔ ∃ place, opens (text.drop place) = true := by
  induction text with
  | nil => simp [occurs, none]
  | cons c rest ih =>
    rw [← Nat.or_exists_add_one, occurs, Bool.or_eq_true, ih]
    simp only [List.drop_succ_cons, List.drop_zero]

/-! ## Group names -/

/-- The names of all groups, looked for at every place. -/
def namesAt (escaped : Bool) : List Char → List (List Char)
  | [] => []
  | c :: rest =>
    (if escaped then none else groupName? (c :: rest)).toList ++ namesAt (c = '\\') rest

/-- A group opens with a parenthesis alone. -/
theorem groupName?_cons_of_ne {c : Char} (other : c ≠ '(') (rest : List Char) :
    groupName? (c :: rest) = none := by
  unfold groupName?
  split
  · rename_i same
    exact absurd (List.cons.inj same).1 other
  · rfl

/-- Where there is no parenthesis no name begins. -/
theorem namesAt_cons_of_ne {c : Char} (other : c ≠ '(') (escaped : Bool) (rest : List Char) :
    namesAt escaped (c :: rest) = namesAt (c = '\\') rest := by
  rw [namesAt, groupName?_cons_of_ne other, ite_self]
  rfl

/-- No group opens in a text without opening parentheses, whatever may follow behind its last
character. -/
theorem namesAt_skip (escaped : Bool) {front : List Char} (plain : '(' ∉ front)
    (rest : List Char) : namesAt escaped (front ++ '>' :: rest) = namesAt false rest := by
  induction front generalizing escaped with
  | nil => rw [List.nil_append, namesAt_cons_of_ne (by decide), decide_eq_false (by decide)]
  | cons c front ih =>
    rw [List.mem_cons, not_or] at plain
    rw [List.cons_append, namesAt_cons_of_ne (Ne.symm plain.1), ih _ plain.2]

/-- A character that can neither begin a name nor go on with one is in no name. -/
theorem not_mem_of_isName {c : Char} (start : isNameStart c = false) (part : isNamePart c = false)
    {name : List Char} (isName : IsName name) : c ∉ name := by
  obtain ⟨first, rest, rfl, hstart, hparts⟩ := isName
  rw [List.mem_cons, not_or]
  constructor
  · rintro rfl
    rw [(isNameStart_iff c).mpr hstart] at start
    cases start
  · intro member
    rw [(isNamePart_iff c).mpr (hparts c member)] at part
    cases part

/-- No name has a parenthesis. -/
theorem paren_not_mem_of_isName {name : List Char} (isName : IsName name) : '(' ∉ name :=
  not_mem_of_isName (by decide) isNamePart_paren isName

/-- No name has the bracket that closes it. -/
theorem angle_not_mem_of_isName {name : List Char} (isName : IsName name) : '>' ∉ name :=
  not_mem_of_isName (by decide) isNamePart_angle isName

/-- The search that goes on behind each opening finds the names at all places, in their order. -/
theorem groupNamesFrom_eq (escaped : Bool) (text : List Char) :
    groupNamesFrom escaped text = namesAt escaped text := by
  induction escaped, text using groupNamesFrom.induct with
  | case1 escaped => simp [groupNamesFrom, namesAt]
  | case2 escaped c rest name found ih =>
    rw [dite_eq_ite] at found
    rw [groupNamesFrom, namesAt, found]
    dsimp only
    rw [ih]
    have opened : groupName? (c :: rest) = some name := by
      cases escaped <;> simp_all
    -- the search goes on behind the `>`, and what it passes over has no parenthesis in it
    obtain ⟨isName, more, whole⟩ := (groupName?_eq_some_iff _ _).mp opened
    have hrest : rest = ('?' :: '<' :: name) ++ '>' :: more := by
      simpa [groupHead] using (List.cons.inj whole).2.symm
    have plain : '(' ∉ '?' :: '<' :: name := by
      simp [paren_not_mem_of_isName isName]
    rw [hrest, namesAt_skip _ plain]
    simp
  | case3 escaped c rest found ih =>
    rw [dite_eq_ite] at found
    rw [groupNamesFrom, namesAt, found, ih]
    rfl

/-- A group of a name opens at a place of a text, where a flag says whether a backslash stands
before the text. -/
def GroupAt (escaped : Bool) (text : List Char) (place : Nat) (name : List Char) : Prop :=
  BareFrom escaped text place ∧ groupName? (text.drop place) = some name

/-- Behind its first character a text has the groups that it has there. -/
theorem groupAt_succ_iff (escaped : Bool) (c : Char) (rest : List Char) (place : Nat)
    (name : List Char) :
    GroupAt escaped (c :: rest) (place + 1) name ↔ GroupAt (c = '\\') rest place name := by
  rw [GroupAt, GroupAt, bareFrom_succ_iff, List.drop_succ_cons]

/-- A group at the first place is one that opens there with no backslash before it. -/
theorem groupAt_zero_iff (escaped : Bool) (text name : List Char) :
    GroupAt escaped text 0 name ↔ (if escaped then none else groupName? text) = some name := by
  cases escaped <;> simp [GroupAt, BareFrom]

/-- The empty text has no group. -/
theorem not_groupAt_nil (escaped : Bool) (place : Nat) (name : List Char) :
    ¬GroupAt escaped [] place name := by
  simp [GroupAt, groupName?]

/-- A name is found if a group has it at some place. -/
theorem mem_namesAt_iff (escaped : Bool) (text name : List Char) :
    name ∈ namesAt escaped text ↔ ∃ place, GroupAt escaped text place name := by
  induction text generalizing escaped with
  | nil => simp [namesAt, not_groupAt_nil]
  | cons c rest ih =>
    rw [← Nat.or_exists_add_one, namesAt, List.mem_append, ih, groupAt_zero_iff]
    simp only [groupAt_succ_iff, Option.mem_toList]

/-- A name is listed twice if two places have groups of this name. -/
theorem duplicate_namesAt_iff (escaped : Bool) (text name : List Char) :
    List.Duplicate name (namesAt escaped text) ↔
      ∃ a b, a < b ∧ GroupAt escaped text a name ∧ GroupAt escaped text b name := by
  induction text generalizing escaped with
  | nil => simp [namesAt, not_groupAt_nil]
  | cons c rest ih =>
    have later :
        (∃ a b, a < b ∧ GroupAt (c = '\\') rest a name ∧ GroupAt (c = '\\') rest b name) →
          ∃ a b, a < b ∧ GroupAt escaped (c :: rest) a name ∧
            GroupAt escaped (c :: rest) b name := by
      rintro ⟨a, b, less, first, second⟩
      exact ⟨a + 1, b + 1, by omega, (groupAt_succ_iff ..).mpr first,
        (groupAt_succ_iff ..).mpr second⟩
    rw [namesAt]
    cases found : (if escaped then none else groupName? (c :: rest)) with
    | none =>
      rw [Option.toList_none, List.nil_append, ih]
      refine ⟨later, ?_⟩
      rintro ⟨a, b, less, first, second⟩
      -- no group opens at the first character, so both places lie behind it
      obtain ⟨b, rfl⟩ : ∃ k, b = k + 1 := ⟨b - 1, by omega⟩
      cases a with
      | zero =>
        rw [groupAt_zero_iff, found] at first
        cases first
      | succ a =>
        exact ⟨a, b, by omega, (groupAt_succ_iff ..).mp first, (groupAt_succ_iff ..).mp second⟩
    | some here =>
      rw [Option.toList_some, List.singleton_append, List.duplicate_cons_iff, ih, mem_namesAt_iff]
      constructor
      · rintro (⟨rfl, place, again⟩ | twice)
        · exact ⟨0, place + 1, by omega, (groupAt_zero_iff ..).mpr found,
            (groupAt_succ_iff ..).mpr again⟩
        · exact later twice
      · rintro ⟨a, b, less, first, second⟩
        -- only the earlier place can be the first one
        obtain ⟨b, rfl⟩ : ∃ k, b = k + 1 := ⟨b - 1, by omega⟩
        cases a with
        | zero =>
          rw [groupAt_zero_iff, found] at first
          exact Or.inl ⟨Option.some.inj first, b, (groupAt_succ_iff ..).mp second⟩
        | succ a =>
          exact Or.inr ⟨a, b, by omega, (groupAt_succ_iff ..).mp first,
            (groupAt_succ_iff ..).mp second⟩

/-- Names are repeated if one of them occurs twice. -/
theorem hasRepeated_iff (names : List (List Char)) :
    hasRepeated names = true ↔ ∃ name, List.Duplicate name names := by
  induction names with
  | nil => simp [hasRepeated]
  | cons first rest ih =>
    simp only [hasRepeated, Bool.or_eq_true, List.contains_iff_mem, ih, List.duplicate_cons_iff,
      exists_or, exists_eq_left']

/-- The names of a text are repeated if two places have groups of one name. -/
theorem hasRepeated_namesAt_iff (escaped : Bool) (text : List Char) :
    hasRepeated (namesAt escaped text) = true ↔
      ∃ a b name, a < b ∧ GroupAt escaped text a name ∧ GroupAt escaped text b name := by
  simp only [hasRepeated_iff, duplicate_namesAt_iff]
  constructor
  · rintro ⟨name, a, b, twice⟩
    exact ⟨a, b, name, twice⟩
  · rintro ⟨a, b, name, twice⟩
    exact ⟨name, a, b, twice⟩

/-- A group opens in a pattern where the opening of its name stands behind no backslash. -/
theorem groupAt_pattern_iff (pattern : List Char) (place : Nat) (name : List Char) :
    GroupAt false pattern place name ↔
      IsName name ∧ StandsAt (groupHead name) pattern place ∧ Bare pattern place := by
  rw [GroupAt, bareFrom_false_iff, groupName?_eq_some_iff, StandsAt]
  tauto

/-- A pattern has names if some place has a group. -/
theorem groupNames_ne_nil_iff (pattern : List Char) :
    groupNames pattern ≠ [] ↔ ∃ place name, GroupAt false pattern place name := by
  rw [groupNames, groupNamesFrom_eq, ne_eq, List.eq_nil_iff_forall_not_mem, exists_comm]
  simp only [mem_namesAt_iff, not_forall, not_not]

/-! ## Features -/

/-- A pattern shows three of its flags, and the forms that occur in it. -/
theorem mem_features_iff (pattern flags : List Char) (feature : Feature) :
    feature ∈ features pattern flags ↔
      's' ∈ flags ∧ feature = .regexpDotAllFlag ∨
      'd' ∈ flags ∧ feature = .regexpMatchIndices ∨
      'v' ∈ flags ∧ feature = .regexpVFlag ∨
      occursUnescaped opensLookbehind false pattern = true ∧
        feature = .regexpLookbehindAssertions ∨
      ('u' ∈ flags ∧ occurs opensProperty pattern = true) ∧
        feature = .regexpUnicodePropertyEscapes ∨
      groupNames pattern ≠ [] ∧ feature = .regexpNamedCaptureGroups ∨
      hasRepeated (groupNames pattern) = true ∧ feature = .duplicateNamedCaptureGroups ∨
      occursUnescaped opensModifiers false pattern = true ∧ feature = .regexpModifiers := by
  simp only [features, flagFeatures, FeatureSet.mem_union, FeatureSet.mem_onlyIf,
    List.contains_iff_mem, Bool.and_eq_true, Bool.not_eq_true', List.isEmpty_eq_false_iff, or_assoc,
    and_comm]

/-- A regular expression shows exactly this. For the flags `s`, `d` and `v`, what each flag stands
for. With the flag `u`, property escapes if `\p` or `\P` and an opening brace stand anywhere.
Lookbehinds, groups with names and modifier groups, each if the opening of one stands at some place
right behind no backslash. And groups of one name if two different places have groups of this
name. -/
theorem features_exact (pattern flags : List Char) :
    Finder.take ∅ (.regex pattern flags) = features pattern flags ∧
      (.regexpDotAllFlag ∈ features pattern flags ↔ 's' ∈ flags) ∧
      (.regexpMatchIndices ∈ features pattern flags ↔ 'd' ∈ flags) ∧
      (.regexpVFlag ∈ features pattern flags ↔ 'v' ∈ flags) ∧
      (.regexpUnicodePropertyEscapes ∈ features pattern flags ↔
        'u' ∈ flags ∧ ∃ place, StandsAt ['\\', 'p', '\x7b'] pattern place ∨
          StandsAt ['\\', 'P', '\x7b'] pattern place) ∧
      (.regexpLookbehindAssertions ∈ features pattern flags ↔
        ∃ place head, IsLookbehindHead head ∧ StandsAt head pattern place ∧
          Bare pattern place) ∧
      (.regexpNamedCaptureGroups ∈ features pattern flags ↔
        ∃ place name, IsName name ∧ StandsAt (groupHead name) pattern place ∧
          Bare pattern place) ∧
      (.duplicateNamedCaptureGroups ∈ features pattern flags ↔
        ∃ a b name, a ≠ b ∧ IsName name ∧
          (StandsAt (groupHead name) pattern a ∧ Bare pattern a) ∧
          (StandsAt (groupHead name) pattern b ∧ Bare pattern b)) ∧
      (.regexpModifiers ∈ features pattern flags ↔
        ∃ place head, IsModifierHead head ∧ StandsAt head pattern place ∧
          Bare pattern place) ∧
      ∀ feature ∈ features pattern flags, feature ∈ ([.regexpDotAllFlag, .regexpMatchIndices,
        .regexpVFlag, .regexpUnicodePropertyEscapes, .regexpLookbehindAssertions,
        .regexpNamedCaptureGroups, .duplicateNamedCaptureGroups, .regexpModifiers] :
          List Feature) := by
  simp only [mem_features_iff, reduceCtorEq, and_false, and_true, or_false, false_or, true_and]
  refine ⟨FeatureSet.empty_union _, ?_, ?_, ?_, ?_, ?_, ?_⟩
  · rw [occurs_iff rfl]
    simp only [opensProperty_iff, StandsAt]
  · exact occursUnescaped_iff_standsAt opensLookbehind_iff rfl pattern
  · simp only [groupNames_ne_nil_iff, groupAt_pattern_iff]
  · rw [groupNames, groupNamesFrom_eq, hasRepeated_namesAt_iff]
    simp only [groupAt_pattern_iff]
    constructor
    · rintro ⟨a, b, name, less, ⟨isName, first⟩, -, second⟩
      exact ⟨a, b, name, by omega, isName, first, second⟩
    · rintro ⟨a, b, name, differ, isName, first, second⟩
      obtain less | less := Nat.lt_or_gt_of_ne differ
      · exact ⟨a, b, name, less, ⟨isName, first⟩, isName, second⟩
      · exact ⟨b, a, name, less, ⟨isName, second⟩, isName, first⟩
  · exact occursUnescaped_iff_standsAt opensModifiers_iff rfl pattern
  · intro feature shown
    simp only [List.mem_cons, List.not_mem_nil, or_false]
    tauto

end EcmaEdition.Pattern
