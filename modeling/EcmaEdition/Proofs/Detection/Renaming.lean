import EcmaEdition.Proofs.Detection.Pattern
import Mathlib.Data.Set.Function

/-!
# Groups under other names

The groups of a pattern may be given other names, while the text between them stays as it is. No new
group comes up in that text: a name has no parenthesis, so what is read as the opening of a group
ends before the next group begins. Hence the names that are found afterwards are the new names of
those that were found before, less the new names that the search does not know
(`namesAt_of_renamed`).

If it knows them all, it makes no difference to the features of groups what the names are
(`renamed_exact`). But a name of the language may begin with any letter and have combining marks in
it, and the search knows names only that begin with a letter of ASCII, `_` or `$` and have no marks.
A group is lost when it gets another name of the language.
-/

set_option autoImplicit false

namespace EcmaEdition.Pattern

open EcmaEdition.Text

/-- A name of some script: it is not empty, and its characters of ASCII are letters, digits, `_` and
`$`. All names of the language are such names, whatever letters and marks they have beyond ASCII. -/
def IsScriptName (name : List Char) : Prop :=
  name ≠ [] ∧ ∀ c ∈ name, c.toNat < 128 → c.isAlphanum = true ∨ c = '_' ∨ c = '$'

/-- The names that groups may be given. -/
abbrev ScriptName := { name : List Char // IsScriptName name }

/-- A group of a name opens at a place of a pattern, right behind no backslash. -/
def HasGroup (pattern : List Char) (place : Nat) (name : List Char) : Prop :=
  IsName name ∧ StandsAt (groupHead name) pattern place ∧ Bare pattern place

/-- A text whose groups have got other names, where a flag says whether a backslash stands before
the text. All groups behind no backslash get their new names; the others may get theirs or not. -/
inductive Renamed (rename : List Char → ScriptName) : Bool → List Char → List Char → Prop where
  | nil {escaped : Bool} : Renamed rename escaped [] []
  | group {escaped : Bool} {name rest renamed : List Char} (isName : IsName name)
      (behind : Renamed rename false rest renamed) :
      Renamed rename escaped (groupHead name ++ rest) (groupHead (rename name) ++ renamed)
  | other {escaped : Bool} {c : Char} {rest renamed : List Char}
      (groupless : ∀ name, IsName name → groupHead name <+: c :: rest → escaped = true)
      (behind : Renamed rename (c = '\\') rest renamed) :
      Renamed rename escaped (c :: rest) (c :: renamed)

instance : DecidablePred IsName
  | [] => isFalse (by rintro ⟨first, rest, same, -⟩; cases same)
  | first :: rest =>
    decidable_of_iff (isNameStart first = true ∧ rest.all isNamePart = true) (by
      simp only [List.all_eq_true, isNameStart_iff, isNamePart_iff]
      constructor
      · rintro ⟨start, parts⟩
        exact ⟨first, rest, rfl, start, parts⟩
      · rintro ⟨first, rest, same, start, parts⟩
        cases same
        exact ⟨start, parts⟩)

/-! ## Openings -/

/-- A name has no other sign of ASCII than `_` and `$`. -/
theorem IsScriptName.not_mem {name : List Char} (script : IsScriptName name) {c : Char}
    (ascii : c.toNat < 128) (sign : ¬(c.isAlphanum = true ∨ c = '_' ∨ c = '$')) : c ∉ name := by
  intro member
  exact sign (script.2 c member ascii)

/-- A name reaches up to the bracket that closes it. -/
theorem takeWhile_name {name rest : List Char} (angle : '>' ∉ name) :
    (name ++ '>' :: rest).takeWhile (· != '>') = name := by
  have plain : ∀ c ∈ name, (c != '>') = true := by
    intro c member
    rw [bne_iff_ne]
    rintro rfl
    exact angle member
  rw [List.takeWhile_append_of_pos plain, List.takeWhile_cons_of_neg (by simp), List.append_nil]

/-- The opening of a group is read as its name, or as none if the search does not know the name. -/
theorem groupName?_groupHead {name : List Char} (angle : '>' ∉ name) (rest : List Char) :
    groupName? (groupHead name ++ rest) = if IsName name then some name else none := by
  split
  · rename_i isName
    exact (groupName?_eq_some_iff _ _).mpr ⟨isName, List.prefix_append _ _⟩
  · rename_i unknown
    rw [Option.eq_none_iff_forall_ne_some]
    intro other found
    obtain ⟨isName, more, same⟩ := (groupName?_eq_some_iff _ _).mp found
    have ends : other ++ '>' :: more = name ++ '>' :: rest := by simpa [groupHead] using same
    have hother : other = name := by
      rw [← takeWhile_name (angle_not_mem_of_isName isName), ends, takeWhile_name angle]
    rw [hother] at isName
    exact unknown isName

/-- The names of a text that begins with a group are its name, if it is found, and those behind
it. -/
theorem namesAt_groupHead {name : List Char} (paren : '(' ∉ name) (angle : '>' ∉ name)
    (escaped : Bool) (rest : List Char) :
    namesAt escaped (groupHead name ++ rest) =
      (if escaped = false ∧ IsName name then [name] else []) ++ namesAt false rest := by
  have shape : groupHead name ++ rest = '(' :: (('?' :: '<' :: name) ++ '>' :: rest) := by
    simp [groupHead]
  have plain : '(' ∉ '?' :: '<' :: name := by simp [paren]
  have here := groupName?_groupHead angle rest
  rw [shape] at here ⊢
  rw [namesAt, here, namesAt_skip _ plain]
  cases escaped <;> by_cases known : IsName name <;> simp [known]

/-! ## The names of a renamed text -/

section Renamed

variable {rename : List Char → ScriptName} {escaped : Bool} {text renamed : List Char}

/-- Every text can be renamed. -/
theorem exists_renamed (rename : List Char → ScriptName) (escaped : Bool) (text : List Char) :
    ∃ renamed, Renamed rename escaped text renamed := by
  induction escaped, text using groupNamesFrom.induct with
  | case1 escaped => exact ⟨[], .nil⟩
  | case2 escaped c rest name found ih =>
    have opened : groupName? (c :: rest) = some name := by
      cases escaped <;> simp_all
    obtain ⟨isName, more, whole⟩ := (groupName?_eq_some_iff _ _).mp opened
    have behind : rest.drop (name.length + 3) = more := by
      have hrest : rest = ('?' :: '<' :: (name ++ ['>'])) ++ more := by
        simpa [groupHead] using (List.cons.inj whole).2.symm
      rw [hrest, List.drop_left' (by simp)]
    obtain ⟨renamed, becomes⟩ := ih
    rw [behind] at becomes
    rw [← whole]
    exact ⟨_, .group isName becomes⟩
  | case3 escaped c rest found ih =>
    obtain ⟨renamed, becomes⟩ := ih
    refine ⟨_, .other ?_ becomes⟩
    intro name isName begins
    by_contra bare
    rw [dite_eq_ite, if_neg bare, (groupName?_eq_some_iff _ name).mpr ⟨isName, begins⟩] at found
    cases found

/-- A character that opens no group stays as it is. -/
theorem Renamed.plain {c : Char} {rest : List Char} (other : c ≠ '(')
    (behind : Renamed rename (c = '\\') rest renamed) :
    Renamed rename escaped (c :: rest) (c :: renamed) := by
  refine .other ?_ behind
  intro name _ begins
  simp only [groupHead, List.cons_append, List.cons_prefix_cons] at begins
  exact absurd begins.1.symm other

/-- What a renamed text begins with, up to any parenthesis, the text began with as well. -/
theorem Renamed.prefix_of_paren_not_mem {run : List Char} (plain : '(' ∉ run)
    (becomes : Renamed rename escaped text renamed) (begins : run <+: renamed) :
    run <+: text := by
  induction run generalizing escaped text renamed with
  | nil => exact List.nil_prefix
  | cons c run ih =>
    rw [List.mem_cons, not_or] at plain
    cases becomes with
    | nil => exact begins
    | group isName behind =>
      simp only [groupHead, List.cons_append, List.cons_prefix_cons] at begins
      exact absurd begins.1.symm plain.1
    | other groupless behind =>
      obtain ⟨rfl, further⟩ := List.cons_prefix_cons.mp begins
      exact List.cons_prefix_cons.mpr ⟨rfl, ih plain.2 behind further⟩

/-- Where no group opened, none opens after the renaming. -/
theorem groupless_of_renamed {c : Char} {rest : List Char}
    (groupless : ∀ name, IsName name → groupHead name <+: c :: rest → escaped = true)
    (behind : Renamed rename (c = '\\') rest renamed) :
    ∀ name, IsName name → groupHead name <+: c :: renamed → escaped = true := by
  intro name isName begins
  apply groupless name isName
  obtain ⟨paren, further⟩ := List.cons_prefix_cons.mp begins
  refine List.cons_prefix_cons.mpr ⟨paren, behind.prefix_of_paren_not_mem ?_ further⟩
  simp [paren_not_mem_of_isName isName]

/-- Where no group opens the names are those behind the character. -/
theorem namesAt_of_groupless {c : Char} {rest : List Char}
    (groupless : ∀ name, IsName name → groupHead name <+: c :: rest → escaped = true) :
    namesAt escaped (c :: rest) = namesAt (c = '\\') rest := by
  have none : (if escaped then none else groupName? (c :: rest)) = none := by
    cases escaped with
    | true => rfl
    | false =>
      rw [if_neg Bool.false_ne_true, Option.eq_none_iff_forall_ne_some]
      intro name found
      obtain ⟨isName, begins⟩ := (groupName?_eq_some_iff _ _).mp found
      exact absurd (groupless name isName begins) Bool.false_ne_true
  rw [namesAt, none]
  rfl

/-- The names in a renamed text are the new names of those that were there, less the ones that the
search does not know. -/
theorem namesAt_of_renamed (becomes : Renamed rename escaped text renamed) :
    namesAt escaped renamed =
      ((namesAt escaped text).map fun name => (rename name).val).filter (IsName ·) := by
  induction becomes with
  | nil => rfl
  | @group escaped name rest renamed isName behind ih =>
    have script := (rename name).property
    rw [namesAt_groupHead (paren_not_mem_of_isName isName) (angle_not_mem_of_isName isName),
      namesAt_groupHead (script.not_mem (by decide) (by decide))
        (script.not_mem (by decide) (by decide)), ih, List.map_append, List.filter_append]
    -- Both openings are read, and only the new name may be unknown to the search.
    congr 1
    cases escaped <;> by_cases known : IsName (rename name).val <;> simp [isName, known]
  | other groupless behind ih =>
    rw [namesAt_of_groupless groupless,
      namesAt_of_groupless (groupless_of_renamed groupless behind), ih]

end Renamed

/-! ## Features -/

/-- A pattern has the groups that are looked for in it. -/
theorem hasGroup_iff (pattern : List Char) (place : Nat) (name : List Char) :
    HasGroup pattern place name ↔ GroupAt false pattern place name :=
  (groupAt_pattern_iff pattern place name).symm

/-- A name is found if a group has it. -/
theorem mem_namesAt_iff_hasGroup (pattern name : List Char) :
    name ∈ namesAt false pattern ↔ ∃ place, HasGroup pattern place name := by
  simp only [mem_namesAt_iff, hasGroup_iff]

/-- A name is found twice if two groups have it. -/
theorem duplicate_namesAt_iff_hasGroup (pattern name : List Char) :
    List.Duplicate name (namesAt false pattern) ↔
      ∃ a b, a ≠ b ∧ HasGroup pattern a name ∧ HasGroup pattern b name := by
  simp only [duplicate_namesAt_iff, hasGroup_iff]
  constructor
  · rintro ⟨a, b, less, first, second⟩
    exact ⟨a, b, by omega, first, second⟩
  · rintro ⟨a, b, differ, first, second⟩
    obtain less | less := Nat.lt_or_gt_of_ne differ
    · exact ⟨a, b, less, first, second⟩
    · exact ⟨b, a, less, second, first⟩

/-- Named groups are shown if there is a name. -/
theorem namedCaptureGroups_mem_iff (pattern flags : List Char) :
    .regexpNamedCaptureGroups ∈ features pattern flags ↔ ∃ name, name ∈ namesAt false pattern := by
  simp [mem_features_iff, groupNames, groupNamesFrom_eq, List.eq_nil_iff_forall_not_mem]

/-- Repeated names are shown if a name is found twice. -/
theorem duplicateNamedCaptureGroups_mem_iff (pattern flags : List Char) :
    .duplicateNamedCaptureGroups ∈ features pattern flags ↔
      ∃ name, List.Duplicate name (namesAt false pattern) := by
  simp [mem_features_iff, groupNames, groupNamesFrom_eq, hasRepeated_iff]

section Lists

variable {α β : Type} {xs : List α}

/-- What occurs twice among the members that pass a test occurs twice and passes it. -/
theorem duplicate_filter_iff [DecidableEq α] {p : α → Bool} {x : α} :
    List.Duplicate x (xs.filter p) ↔ List.Duplicate x xs ∧ p x = true := by
  by_cases passes : p x = true
  · rw [List.duplicate_iff_two_le_count, List.duplicate_iff_two_le_count, List.count_filter passes]
    simp [passes]
  · refine iff_of_false ?_ (fun both => passes both.2)
    intro twice
    exact passes (List.mem_filter.mp twice.mem).2

/-- Where nothing is mapped to the same, the duplicates of a mapped list are those of the list. -/
theorem duplicate_map_iff {f : α → β} (injective : Set.InjOn f {x | x ∈ xs}) {y : β} :
    List.Duplicate y (xs.map f) ↔ ∃ x, f x = y ∧ List.Duplicate x xs := by
  induction xs with
  | nil => simp
  | cons first rest ih =>
    have hrest : Set.InjOn f {x | x ∈ rest} :=
      injective.mono fun x listed => List.mem_cons_of_mem first listed
    simp only [List.map_cons, List.duplicate_cons_iff, ih hrest, and_or_left, exists_or,
      List.mem_map]
    refine or_congr ?_ Iff.rfl
    constructor
    · rintro ⟨here, x, listed, there⟩
      have same : first = x := injective List.mem_cons_self (List.mem_cons_of_mem first listed)
        (here.trans there.symm)
      exact ⟨x, there, same, listed⟩
    · rintro ⟨x, there, rfl, listed⟩
      exact ⟨there, first, listed, there⟩

end Lists

/-- Every pattern can be renamed. However this is done, groups with names are found if some group
has a new name that the search knows, and groups of one name if two places have groups of one name
whose new name it knows; different groups are to get different names. So if the search knows all the
new names, it makes no difference what the names are. -/
theorem renamed_exact {rename : List Char → ScriptName} {pattern : List Char}
    (injective : Set.InjOn rename {name | ∃ place, HasGroup pattern place name})
    (flags : List Char) :
    (∃ renamed, Renamed rename false pattern renamed) ∧
      ∀ renamed, Renamed rename false pattern renamed →
        (.regexpNamedCaptureGroups ∈ features renamed flags ↔
            ∃ place name, HasGroup pattern place name ∧ IsName (rename name)) ∧
          (.duplicateNamedCaptureGroups ∈ features renamed flags ↔
            ∃ a b name, a ≠ b ∧ HasGroup pattern a name ∧ HasGroup pattern b name ∧
              IsName (rename name)) ∧
          ((∀ place name, HasGroup pattern place name → IsName (rename name)) →
            (.regexpNamedCaptureGroups ∈ features renamed flags ↔
                .regexpNamedCaptureGroups ∈ features pattern flags) ∧
              (.duplicateNamedCaptureGroups ∈ features renamed flags ↔
                .duplicateNamedCaptureGroups ∈ features pattern flags)) := by
  refine ⟨exists_renamed rename false pattern, ?_⟩
  intro renamed becomes
  have hinjective : Set.InjOn (fun name => (rename name).val)
      {name | name ∈ namesAt false pattern} := by
    simp only [mem_namesAt_iff_hasGroup]
    exact Subtype.val_injective.comp_injOn injective
  have named : .regexpNamedCaptureGroups ∈ features renamed flags ↔
      ∃ place name, HasGroup pattern place name ∧ IsName (rename name) := by
    rw [namedCaptureGroups_mem_iff, namesAt_of_renamed becomes]
    simp only [List.mem_filter, List.mem_map, mem_namesAt_iff_hasGroup, decide_eq_true_eq]
    constructor
    · rintro ⟨-, ⟨name, ⟨place, opens⟩, rfl⟩, known⟩
      exact ⟨place, name, opens, known⟩
    · rintro ⟨place, name, opens, known⟩
      exact ⟨_, ⟨name, ⟨place, opens⟩, rfl⟩, known⟩
  have duplicate : .duplicateNamedCaptureGroups ∈ features renamed flags ↔
      ∃ a b name, a ≠ b ∧ HasGroup pattern a name ∧ HasGroup pattern b name ∧
        IsName (rename name) := by
    rw [duplicateNamedCaptureGroups_mem_iff, namesAt_of_renamed becomes]
    simp only [duplicate_filter_iff, duplicate_map_iff hinjective, duplicate_namesAt_iff_hasGroup,
      decide_eq_true_eq]
    constructor
    · rintro ⟨-, ⟨name, rfl, a, b, differ, first, second⟩, known⟩
      exact ⟨a, b, name, differ, first, second, known⟩
    · rintro ⟨a, b, name, differ, first, second, known⟩
      exact ⟨_, ⟨name, rfl, a, b, differ, first, second⟩, known⟩
  refine ⟨named, duplicate, fun known => ⟨?_, ?_⟩⟩
  · rw [named, namedCaptureGroups_mem_iff]
    simp only [mem_namesAt_iff_hasGroup]
    constructor
    · rintro ⟨place, name, opens, -⟩
      exact ⟨name, place, opens⟩
    · rintro ⟨name, place, opens⟩
      exact ⟨place, name, opens, known place name opens⟩
  · rw [duplicate, duplicateNamedCaptureGroups_mem_iff]
    simp only [duplicate_namesAt_iff_hasGroup]
    constructor
    · rintro ⟨a, b, name, differ, first, second, -⟩
      exact ⟨name, a, b, differ, first, second⟩
    · rintro ⟨name, a, b, differ, first, second⟩
      exact ⟨a, b, name, differ, first, second, known a name first⟩

/-! ## Names beyond ASCII -/

/-- A pattern with two groups of one name. -/
def twoGroups (name : List Char) : List Char :=
  groupHead name ++ ('x' :: ')' :: '|' :: (groupHead name ++ ['y', ')']))

/-- Both groups of one name get its new name. -/
theorem renamed_twoGroups (rename : List Char → ScriptName) {name : List Char}
    (isName : IsName name) :
    Renamed rename false (twoGroups name) (twoGroups (rename name)) := by
  refine .group isName (.plain (by decide) (.plain (by decide) (.plain (by decide) ?_)))
  exact .group isName (.plain (by decide) (.plain (by decide) .nil))

/-- The two groups of one name show it twice if the name is found at all. -/
theorem namesAt_twoGroups {name : List Char} (script : IsScriptName name) :
    namesAt false (twoGroups name) = if IsName name then [name, name] else [] := by
  have paren : '(' ∉ name := script.not_mem (by decide) (by decide)
  have angle : '>' ∉ name := script.not_mem (by decide) (by decide)
  rw [twoGroups, namesAt_groupHead paren angle, namesAt_cons_of_ne (by decide),
    namesAt_cons_of_ne (by decide), namesAt_cons_of_ne (by decide), namesAt_groupHead paren angle,
    namesAt_cons_of_ne (by decide), namesAt_cons_of_ne (by decide), namesAt]
  by_cases known : IsName name <;> simp [known]

/-- Both features of groups are found under a name that the search knows, and none under another. -/
theorem mem_features_twoGroups_iff {name : List Char} (script : IsScriptName name) :
    (.regexpNamedCaptureGroups ∈ features (twoGroups name) [] ↔ IsName name) ∧
      (.duplicateNamedCaptureGroups ∈ features (twoGroups name) [] ↔ IsName name) := by
  rw [namedCaptureGroups_mem_iff, duplicateNamedCaptureGroups_mem_iff, namesAt_twoGroups script]
  by_cases known : IsName name
  · simp [known, List.duplicate_cons_iff]
  · simp [known]

/-- No renaming takes two names of that pattern to one, since it has no more than one. -/
theorem injOn_twoGroups (rename : List Char → ScriptName) {name : List Char}
    (script : IsScriptName name) :
    Set.InjOn rename {other | ∃ place, HasGroup (twoGroups name) place other} := by
  have only : ∀ other, (∃ place, HasGroup (twoGroups name) place other) → other = name := by
    intro other opens
    rw [← mem_namesAt_iff_hasGroup, namesAt_twoGroups script] at opens
    split at opens
    · simpa using opens
    · cases opens
  intro a ha b hb _
  rw [only a ha, only b hb]

/-- A letter of ASCII. -/
def letter : ScriptName := ⟨['a'], by simp [IsScriptName]⟩

/-- A letter with an accent behind a letter of ASCII. -/
def accentBehind : ScriptName := ⟨['a', 'é'], by simp [IsScriptName]⟩

/-- A letter with an accent by itself. -/
def accentFirst : ScriptName := ⟨['é'], by simp [IsScriptName]⟩

/-- A combining accent behind a letter of ASCII. -/
def markBehind : ScriptName := ⟨['e', '\u0301'], by simp [IsScriptName]⟩

/-- A letter of ASCII is a group's name. -/
theorem isName_letter : IsName letter := by
  decide

/-- Under a name that goes on with a letter beyond ASCII the two groups are found as before. -/
theorem renamed_exact_accentBehind :
    Renamed (fun _ => accentBehind) false (twoGroups letter) (twoGroups accentBehind) ∧
      .regexpNamedCaptureGroups ∈ features (twoGroups accentBehind) [] ∧
      .duplicateNamedCaptureGroups ∈ features (twoGroups accentBehind) [] := by
  have becomes := renamed_twoGroups (fun _ => accentBehind) isName_letter
  have known : IsName accentBehind := by decide +kernel
  obtain ⟨-, kept⟩ :=
    renamed_exact (injOn_twoGroups (fun _ => accentBehind) letter.property) []
  obtain ⟨-, -, same⟩ := kept _ becomes
  obtain ⟨named, duplicate⟩ := same fun _ _ _ => known
  obtain ⟨hnamed, hduplicate⟩ := mem_features_twoGroups_iff letter.property
  exact ⟨becomes, named.mpr (hnamed.mpr isName_letter),
    duplicate.mpr (hduplicate.mpr isName_letter)⟩

/-- Under a name that begins with a letter beyond ASCII, or that has a combining mark, no group is
found. -/
theorem groups_lost_by_renaming :
    Set.InjOn (fun _ => accentFirst) {name | ∃ place, HasGroup (twoGroups letter) place name} ∧
      Renamed (fun _ => accentFirst) false (twoGroups letter) (twoGroups accentFirst) ∧
      Renamed (fun _ => markBehind) false (twoGroups letter) (twoGroups markBehind) ∧
      .regexpNamedCaptureGroups ∈ features (twoGroups letter) [] ∧
      .duplicateNamedCaptureGroups ∈ features (twoGroups letter) [] ∧
      isAlphanumeric 'é' = true ∧
      .regexpNamedCaptureGroups ∉ features (twoGroups accentFirst) [] ∧
      .duplicateNamedCaptureGroups ∉ features (twoGroups accentFirst) [] ∧
      .regexpNamedCaptureGroups ∉ features (twoGroups markBehind) [] ∧
      .duplicateNamedCaptureGroups ∉ features (twoGroups markBehind) [] := by
  have first : ¬IsName accentFirst := by decide +kernel
  have mark : ¬IsName markBehind := by decide +kernel
  obtain ⟨named, duplicate⟩ := mem_features_twoGroups_iff letter.property
  obtain ⟨namedFirst, duplicateFirst⟩ := mem_features_twoGroups_iff accentFirst.property
  obtain ⟨namedMark, duplicateMark⟩ := mem_features_twoGroups_iff markBehind.property
  refine ⟨injOn_twoGroups _ letter.property, renamed_twoGroups _ isName_letter,
    renamed_twoGroups _ isName_letter, named.mpr isName_letter, duplicate.mpr isName_letter,
    by decide +kernel, ?_, ?_, ?_, ?_⟩
  · rwa [namedFirst]
  · rwa [duplicateFirst]
  · rwa [namedMark]
  · rwa [duplicateMark]

end EcmaEdition.Pattern
