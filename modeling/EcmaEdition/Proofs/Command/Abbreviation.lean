import EcmaEdition.Proofs.Command.Words
import Mathlib.Data.List.Nodup
import Mathlib.Data.List.TakeWhile

/-!
# Ways to write an option

An option may be written by its long name or by the beginning of it, a value as a word of its own or
behind an equals sign, and the verbose flag also by its letter. What stands for one option of
`check` is no ambiguity for the program either, which looks at the words of `check` first.
-/

set_option autoImplicit false

namespace EcmaEdition.Command

variable {level : Level} {action : Action} {word : String}

/-! ## Spellings -/

/-- A word stands for an option if it is the beginning of its long name and of no other name. -/
def Abbreviates (table : OptionTable) (word : String) (action : Action) : Prop :=
  ['-', '-'] <+: word.toList ∧
    ∃ entry ∈ table, entry.2 = action ∧ word.toList <+: entry.1.toList ∧
      ∀ other ∈ table, word.toList <+: other.1.toList → other = entry

instance (table : OptionTable) (word : String) (action : Action) :
    Decidable (Abbreviates table word action) :=
  inferInstanceAs (Decidable (['-', '-'] <+: word.toList ∧
    ∃ entry ∈ table, entry.2 = action ∧ word.toList <+: entry.1.toList ∧
      ∀ other ∈ table, word.toList <+: other.1.toList → other = entry))

/-- A long name stands for its own option: it is not the beginning of another. -/
theorem abbreviates_name (level : Level) (entry : String × Action) (listed : entry ∈ level.table)
    (long : ['-', '-'] <+: entry.1.toList) : Abbreviates level.table entry.1 entry.2 := by
  have all : ∀ entry ∈ level.table, ['-', '-'] <+: entry.1.toList →
      Abbreviates level.table entry.1 entry.2 := by
    cases level <;> decide
  exact all entry listed long

/-- The letter of the verbose flag, which may be repeated within its word. -/
def letters (more : ℕ) : String :=
  String.ofList ('-' :: 'v' :: List.replicate more 'v')

/-- The ways to write the verbose flag. -/
inductive IsVerbose (level : Level) : String → Prop
  | letters (more : ℕ) : IsVerbose level (letters more)
  | named {word : String} (named : Abbreviates level.table word .verbose) : IsVerbose level word

/-- A word with a value behind an equals sign, if there is one. -/
def spell (word : String) : Option String → String
  | none => word
  | some value => word ++ "=" ++ value

/-! ## Reading an abbreviation -/

/-- No name of an option has an equals sign. -/
theorem equals_notMem_name (level : Level) {entry : String × Action}
    (listed : entry ∈ level.table) : '=' ∉ entry.1.toList := by
  have all : ∀ entry ∈ level.table, '=' ∉ entry.1.toList := by
    cases level <;> decide
  exact all entry listed

/-- A name that is looked up stands in the table. -/
theorem exists_of_find? {table : OptionTable} {name : List Char}
    (found : table.find? name = some action) :
    ∃ entry ∈ table, entry.1.toList = name ∧ entry.2 = action := by
  obtain ⟨entry, first, same⟩ := Option.map_eq_some_iff.mp found
  have named := List.find?_some first
  exact ⟨entry, List.mem_of_find?_eq_some first, beq_iff_eq.mp named, same⟩

namespace Abbreviates

/-- No abbreviation of a name has an equals sign. -/
theorem equals_notMem (named : Abbreviates level.table word action) : '=' ∉ word.toList := by
  obtain ⟨-, entry, listed, -, begins, -⟩ := named
  exact fun inside => equals_notMem_name level listed (begins.subset inside)

/-- An option is split into its abbreviation and the value that is attached to it. -/
theorem splitEquals_spell (named : Abbreviates level.table word action) (value : Option String) :
    splitEquals (spell word value).toList = (word.toList, value.map String.toList) := by
  have kept : ∀ c ∈ word.toList, decide (c ≠ '=') = true := by
    intro c inside
    have other : c ≠ '=' := by
      rintro rfl
      exact named.equals_notMem inside
    exact decide_eq_true other
  cases value with
  | none =>
    have all : word.toList.dropWhile (fun c => decide (c ≠ '=')) = [] :=
      List.dropWhile_eq_nil_iff.mpr kept
    rw [spell, splitEquals, all]
    rfl
  | some value =>
    have letters : (spell word (some value)).toList = word.toList ++ '=' :: value.toList := by
      simp [spell]
    rw [letters, splitEquals, List.dropWhile_append_of_pos kept,
      List.takeWhile_append_of_pos kept]
    simp

/-- An abbreviated option begins with two hyphens. -/
theorem exists_spell_toList (named : Abbreviates level.table word action) (value : Option String) :
    ∃ rest, (spell word value).toList = '-' :: '-' :: rest := by
  obtain ⟨rest, begins⟩ := named.1
  cases value with
  | none => exact ⟨rest, begins.symm⟩
  | some value =>
    refine ⟨rest ++ '=' :: value.toList, ?_⟩
    simp [spell, ← begins]

/-- The word fits one name only. -/
theorem exists_filter (named : Abbreviates level.table word action) :
    ∃ name, (level.table.filter fun entry => word.toList.isPrefixOf entry.1.toList) =
      [(name, action)] := by
  obtain ⟨-, ⟨name, own⟩, listed, rfl, begins, only⟩ := named
  have nodup : level.table.Nodup := by
    cases level <;> decide
  refine ⟨name, ?_⟩
  have same : ∀ entry, entry ∈ (level.table.filter fun entry =>
      word.toList.isPrefixOf entry.1.toList) ↔ entry ∈ [(name, own)] := by
    intro entry
    rw [List.mem_filter, List.isPrefixOf_iff_prefix, List.mem_singleton]
    constructor
    · rintro ⟨inside, fits⟩
      exact only entry inside fits
    · rintro rfl
      exact ⟨listed, begins⟩
  have permuted := (List.perm_ext_iff_of_nodup (nodup.filter _) (List.nodup_singleton _)).mpr same
  exact List.perm_singleton.mp permuted

/-- An abbreviation has one candidate in its table. -/
theorem exists_candidates (named : Abbreviates level.table word action) (value : Option String) :
    ∃ name, candidates level.table (spell word value).toList =
      [⟨action, name, attachedValue (value.map String.toList)⟩] := by
  obtain ⟨rest, begins⟩ := named.exists_spell_toList value
  obtain ⟨name, only⟩ := named.exists_filter
  have split := named.splitEquals_spell value
  rw [begins] at split ⊢
  refine ⟨name, ?_⟩
  simp only [candidates, split, only, List.map_cons, List.map_nil]

/-- A name that the word is in full belongs to the option for which the word stands. -/
theorem spelled?_spell (named : Abbreviates level.table word action) (value : Option String)
    {recognised : Recognised}
    (found : spelled? level.table (spell word value).toList = some recognised) :
    recognised.action = action ∧
      recognised.attached = attachedValue (value.map String.toList) := by
  have same : ∀ {other}, level.table.find? word.toList = some other → other = action := by
    intro other full
    obtain ⟨-, entry, -, rfl, -, only⟩ := named
    obtain ⟨candidate, listed, begins, rfl⟩ := exists_of_find? full
    have fits : word.toList <+: candidate.1.toList := begins ▸ List.prefix_rfl
    rw [only candidate listed fits]
  rw [spelled?, named.splitEquals_spell] at found
  cases value with
  | none =>
    cases full : level.table.find? word.toList with
    | none => simp [spell, full] at found
    | some other =>
      rw [spell, full] at found
      cases found
      exact ⟨same full, rfl⟩
  | some value =>
    have unnamed : level.table.find? (spell word (some value)).toList = none := by
      by_contra found
      obtain ⟨other, full⟩ := Option.ne_none_iff_exists'.mp found
      obtain ⟨entry, listed, begins, -⟩ := exists_of_find? full
      apply equals_notMem_name level listed
      simp [begins, spell]
    rw [unnamed] at found
    obtain ⟨other, full, rfl⟩ := Option.map_eq_some_iff.mp found
    exact ⟨same full, rfl⟩

/-- An abbreviation is read as the option for which it stands, with its value. -/
theorem readWord_spell (named : Abbreviates level.table word action) (value : Option String) :
    ∃ name, readWord level.table (spell word value) = .ok (.option (spell word value)
      ⟨action, name, attachedValue (value.map String.toList)⟩) := by
  obtain ⟨rest, begins⟩ := named.exists_spell_toList value
  obtain ⟨name, only⟩ := named.exists_candidates value
  have full := @spelled?_spell _ _ _ named value
  unfold readWord
  rw [begins] at only full ⊢
  dsimp only
  cases found : spelled? level.table ('-' :: '-' :: rest) with
  | none =>
    rw [only]
    exact ⟨name, rfl⟩
  | some recognised =>
    obtain ⟨rfl, attached⟩ := full found
    rw [← attached]
    exact ⟨recognised.name, rfl⟩

/-- An abbreviated option is not the separator. -/
theorem spell_ne_separator (named : Abbreviates level.table word action) (value : Option String) :
    spell word value ≠ "--" := by
  intro separator
  obtain ⟨name, only⟩ := named.exists_candidates value
  have several : (candidates level.table "--".toList).length ≠ 1 := by
    cases level <;> decide
  rw [separator] at only
  exact several (by rw [only, List.length_singleton])

end Abbreviates

/-- A word is ambiguous only if it fits several options. -/
theorem exists_readWord {table : OptionTable} {text : String}
    (few : (candidates table text.toList).length ≤ 1) : ∃ read, readWord table text = .ok read := by
  unfold readWord
  dsimp only
  split
  · split
    · exact ⟨_, rfl⟩
    · split
      · exact ⟨_, rfl⟩
      · split <;> exact ⟨_, rfl⟩
      · rename_i notOne notNone
        exfalso
        match found : candidates table text.toList with
        | [] => exact notNone found
        | [first] => exact notOne first found
        | _ :: _ :: _ => simp [found] at few
  · exact ⟨_, rfl⟩

/-- The program, which reads the words of `check` too, has fewer options than `check`: what is no
ambiguity there is none for the program. -/
theorem Abbreviates.exists_readWord_program (named : Abbreviates Level.check.table word action)
    (value : Option String) : ∃ read, readWord programTable (spell word value) = .ok read := by
  obtain ⟨rest, begins⟩ := named.exists_spell_toList value
  obtain ⟨name, only⟩ := named.exists_candidates value
  have fewer : programTable.Sublist Level.check.table := by decide
  have one : (candidates Level.check.table (spell word value).toList).length = 1 := by
    rw [only, List.length_singleton]
  apply exists_readWord
  rw [begins] at one ⊢
  simp only [candidates, List.length_map] at one ⊢
  rw [← one]
  exact (fewer.filter _).length_le

/-! ## Reading the letters of a flag -/

/-- What an option that needs no further word changes. -/
def Recognised.applyTo (level : Level) (draft : Draft) (option : Recognised) :
    Except Stop Draft :=
  match option.attached with
  | some attached => applyAttached draft level option attached
  | none => draft.applyFlag level option.action

/-- A row of the letter for verbosity is split into its letters. -/
theorem splitFlags_letters (level : Level) (more : ℕ) :
    splitFlags level.table .verbose false (List.replicate (more + 1) 'v') =
      .ok (List.replicate (more + 2) .verbose, none) := by
  have found : level.table.find? ['-', 'v'] = some .verbose := by
    cases level <;> decide
  induction more with
  | zero =>
    rw [List.replicate_one, splitFlags, found]
    simp
  | succ more ih =>
    rw [List.replicate_succ, splitFlags, found]
    rw [List.replicate_succ] at ih ⊢
    simp [ih, List.replicate_succ]

/-- Any number of flags for verbosity sets it once. -/
theorem applyFlags_verbose (draft : Draft) (level : Level) (more : ℕ) :
    draft.applyFlags level (List.replicate (more + 1) .verbose) =
      .ok { draft with verbose := true } := by
  induction more generalizing draft with
  | zero => rfl
  | succ more ih =>
    rw [List.replicate_succ, Draft.applyFlags]
    exact ih _

/-- A hyphen and a row of the letter for verbosity is one option. -/
theorem readWord_letters (level : Level) (more : ℕ) :
    readWord level.table (letters (more + 1)) = .ok (.option (letters (more + 1))
      ⟨.verbose, "-v", some ⟨false, List.replicate (more + 1) 'v'⟩⟩) := by
  have begins : (letters (more + 1)).toList = '-' :: 'v' :: 'v' :: List.replicate more 'v' := by
    simp [letters, List.replicate_succ]
  have noValue : splitEquals ('-' :: 'v' :: 'v' :: List.replicate more 'v') =
      ('-' :: 'v' :: 'v' :: List.replicate more 'v', none) := by
    simp [splitEquals]
  have unnamed : spelled? level.table ('-' :: 'v' :: 'v' :: List.replicate more 'v') = none := by
    rw [spelled?, noValue]
    cases level <;> simp [Level.table, programTable, checkTable, OptionTable.find?]
  have one : candidates level.table ('-' :: 'v' :: 'v' :: List.replicate more 'v') =
      [⟨.verbose, "-v", some ⟨false, 'v' :: List.replicate more 'v'⟩⟩] := by
    cases level <;> simp [Level.table, programTable, checkTable, candidates]
  unfold readWord
  rw [begins]
  dsimp only
  rw [unnamed, one]
  rfl

/-- A verbose flag is read as an option that changes one field, however it is written. -/
theorem IsVerbose.exists_readWord (verbose : IsVerbose level word) :
    ∃ option, readWord level.table word = .ok (.option word option) ∧
      option.action.takesValue = false ∧
      ∀ draft, option.applyTo level draft = .ok { draft with verbose := true } := by
  cases verbose with
  | letters more =>
    cases more with
    | zero =>
      refine ⟨⟨.verbose, "-v", none⟩, ?_, rfl, fun draft => rfl⟩
      cases level <;> rfl
    | succ more =>
      refine ⟨⟨.verbose, "-v", some ⟨false, List.replicate (more + 1) 'v'⟩⟩, ?_, rfl, ?_⟩
      · exact readWord_letters level more
      · intro draft
        have short : isShort "-v" = true := by decide
        simp only [Recognised.applyTo, applyAttached, Action.takesValue, short,
          splitFlags_letters, applyFlags_verbose, if_true]
        rfl
  | named named =>
    obtain ⟨name, read⟩ := named.readWord_spell none
    exact ⟨_, read, rfl, fun draft => rfl⟩

/-- A flag for verbosity is not the separator. -/
theorem IsVerbose.ne_separator (verbose : IsVerbose level word) : word ≠ "--" := by
  cases verbose with
  | letters more =>
    intro separator
    have begins := congrArg String.toList separator
    simp [Command.letters] at begins
  | named named => exact named.spell_ne_separator none

/-- The program can read every flag for verbosity that `check` can read. -/
theorem IsVerbose.exists_readWord_program (verbose : IsVerbose .check word) :
    ∃ read, readWord programTable word = .ok read := by
  cases verbose with
  | letters more =>
    obtain ⟨option, read, -⟩ := (IsVerbose.letters more : IsVerbose .program _).exists_readWord
    exact ⟨_, read⟩
  | named named => exact Abbreviates.exists_readWord_program named none

end EcmaEdition.Command
