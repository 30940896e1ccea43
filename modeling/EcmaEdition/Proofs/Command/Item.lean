import EcmaEdition.Proofs.Command.Abbreviation
import Mathlib.Data.List.Forall2

/-!
# The items of a command line

A command line for `check` says a few things, each of which may be written in several ways. Each of
them changes its own field of the draft, whatever stands around it. So what a command line asks for
depends on the things that it says and not on their order or spelling.
-/

set_option autoImplicit false

namespace EcmaEdition.Command

variable {action : Action} {word : String}

/-! ## Items and their spellings -/

/-- One thing that a command line for `check` says. -/
inductive Item where
  | input (text : String)
  | tolerant
  | format (kind : Format)
  | target (edition : Edition)
  | verbose
  deriving DecidableEq, Repr

namespace Item

def input? : Item → Option String
  | .input text => some text
  | _ => none

def format? : Item → Option Format
  | .format kind => some kind
  | _ => none

def target? : Item → Option Edition
  | .target edition => some edition
  | _ => none

/-- An item gives an input if it is one. -/
@[simp] theorem input?_eq_some {item : Item} {text : String} :
    item.input? = some text ↔ item = .input text := by
  cases item <;> simp [input?]

/-- An item gives a format if it is one. -/
@[simp] theorem format?_eq_some {item : Item} {kind : Format} :
    item.format? = some kind ↔ item = .format kind := by
  cases item <;> simp [format?]

/-- An item gives a target if it is one. -/
@[simp] theorem target?_eq_some {item : Item} {edition : Edition} :
    item.target? = some edition ↔ item = .target edition := by
  cases item <;> simp [target?]

/-- What an item changes. -/
def addTo (draft : Draft) : Item → Draft
  | .input text => { draft with input := some text }
  | .tolerant => { draft with tolerant := true }
  | .format kind => { draft with format := kind }
  | .target edition => { draft with target := some edition }
  | .verbose => { draft with verbose := true }

end Item

/-- The option and the value that say an item. -/
inductive Item.Valued : Item → Action → String → Prop
  | format (kind : Format) : Valued (.format kind) .format kind.name
  | target {text : String} {edition : Edition} (named : Edition.parse text = .ok edition) :
      Valued (.target edition) .target text

/-- The ways to write an item. -/
inductive Item.Spells : Item → List String → Prop
  | input {text : String} (bare : text.toList.head? ≠ some '-') : Spells (.input text) [text]
  | tolerant {word : String} (named : Abbreviates Level.check.table word .tolerant) :
      Spells .tolerant [word]
  | verbose {word : String} (verbose : IsVerbose .check word) : Spells .verbose [word]
  | apart {item : Item} {action : Action} {word value : String}
      (valued : item.Valued action value) (named : Abbreviates Level.check.table word action) :
      Spells item [word, value]
  | attached {item : Item} {action : Action} {word value : String}
      (valued : item.Valued action value) (named : Abbreviates Level.check.table word action) :
      Spells item [spell word (some value)]

/-! ## One item after the other -/

/-- The program applies an option and reads on. -/
theorem readProgram_option {draft next : Draft} {option : Recognised}
    (applied : option.applyTo .program draft = .ok next) (text : String) (rest : List Word) :
    readProgram draft (.option text option :: rest) = readProgram next rest := by
  unfold Recognised.applyTo at applied
  rw [readProgram]
  cases found : option.attached with
  | some attached =>
    rw [found] at applied
    simp only [applied]
  | none =>
    rw [found] at applied
    simp only [applied]

/-- The command applies an option that does not wait for a value and reads on. -/
theorem readCheck_option {draft next : Draft} {option : Recognised}
    (applied : option.applyTo .check draft = .ok next)
    (whole : option.attached = none → option.action.takesValue = false) (text : String)
    (rest : List Word) : readCheck draft (.option text option :: rest) = readCheck next rest := by
  unfold Recognised.applyTo at applied
  rw [readCheck.eq_def]
  dsimp only
  cases found : option.attached with
  | some attached =>
    rw [found] at applied
    simp only [applied]
  | none =>
    rw [found] at applied
    simp only [whole found, Bool.false_eq_true, if_false, applied]

/-- An operand that is the first one is the input, unless a separator follows, which would be a part
of it. -/
theorem readCheck_operand {draft : Draft} (unfilled : draft.input = none) (text : String)
    {rest : List Word} (noSeparator : rest.head? ≠ some .separator) :
    readCheck draft (.operand text :: rest) = readCheck { draft with input := some text } rest := by
  rw [readCheck.eq_def]
  dsimp only
  rw [if_neg (by simp [unfilled])]
  cases rest with
  | nil => rfl
  | cons next others =>
    cases next with
    | separator => exact absurd rfl noSeparator
    | _ => rfl

namespace Item

/-- An item with a value is read by an option that takes one. -/
theorem Valued.takesValue {item : Item} {value : String} (valued : item.Valued action value) :
    action.takesValue = true := by
  cases valued <;> rfl

/-- The value of an item does not begin with a hyphen. -/
theorem Valued.head_ne_hyphen {item : Item} {value : String} (valued : item.Valued action value) :
    value.toList.head? ≠ some '-' := by
  cases valued with
  | format kind => cases kind <;> decide
  | target named => exact Edition.head_ne_hyphen_of_parse named

/-- Applying the value of an item adds the item. -/
theorem Valued.applyValue {item : Item} {value : String} (valued : item.Valued action value)
    (draft : Draft) : draft.applyValue .check action value = .ok (item.addTo draft) := by
  cases valued with
  | format kind => cases kind <;> rfl
  | target named => rw [Draft.applyValue, named, addTo]

/-- How an item is read: before whatever else is said, unless that begins with a separator, it
changes the draft as it should. A second input would be a word that nobody asked for. -/
structure ReadAs (item : Item) (texts : List String) (words : List Word) : Prop where
  noSeparator : "--" ∉ texts
  inner : readWords checkTable texts = .ok words
  outer : ∀ text ∈ texts, ∃ read, readWord programTable text = .ok read
  step : ∀ draft rest, rest.head? ≠ some .separator →
    item.input?.toList.length + draft.input.toList.length ≤ 1 →
      readCheck draft (words ++ rest) = readCheck (item.addTo draft) rest

/-- An option that adds an item by itself spells the item. -/
theorem ReadAs.of_option {item : Item} {text : String} {option : Recognised}
    (other : text ≠ "--") (inner : readWord checkTable text = .ok (.option text option))
    (outer : ∃ read, readWord programTable text = .ok read)
    (whole : option.attached = none → option.action.takesValue = false)
    (applied : ∀ draft, option.applyTo .check draft = .ok (item.addTo draft)) :
    item.ReadAs [text] [.option text option] where
  noSeparator := by simpa using other.symm
  inner := by rw [readWords, if_neg other, inner, readWords]
  outer := by simpa using outer
  step draft rest _ _ := readCheck_option (applied draft) whole text rest

/-- An option and the value behind it spell the item of that value. -/
theorem ReadAs.of_pair {item : Item} {value : String} (valued : item.Valued action value)
    {name : String} (other : word ≠ "--")
    (inner : readWord checkTable word = .ok (.option word ⟨action, name, none⟩))
    (outer : ∃ read, readWord programTable word = .ok read) :
    item.ReadAs [word, value] [.option word ⟨action, name, none⟩, .operand value] where
  noSeparator := by
    have bare : value ≠ "--" := ne_separator valued.head_ne_hyphen
    simp [other.symm, bare.symm]
  inner := readWords_pair other inner valued.head_ne_hyphen
  outer := by
    have operand : ∃ read, readWord programTable value = .ok read :=
      ⟨_, readWord_operand valued.head_ne_hyphen⟩
    simp [outer, operand]
  step draft rest _ _ := by
    rw [List.cons_append, List.cons_append, List.nil_append, readCheck.eq_def]
    simp only [valued.takesValue, valued.applyValue, if_true]

/-- A word that does not begin with a hyphen spells an input. -/
theorem ReadAs.of_input {text : String} (bare : text.toList.head? ≠ some '-') :
    (input text).ReadAs [text] [.operand text] where
  noSeparator := by simpa using (ne_separator bare).symm
  inner := by rw [readWords, if_neg (ne_separator bare), readWord_operand bare, readWords]
  outer := by
    have operand : ∃ read, readWord programTable text = .ok read := ⟨_, readWord_operand bare⟩
    simpa using operand
  step draft rest noSeparator first := by
    have unfilled : draft.input = none := by
      cases given : draft.input with
      | none => rfl
      | some other => simp [given, input?] at first
    exact readCheck_operand unfilled text noSeparator

/-- Every way to write an item says that item. -/
theorem Spells.exists_readAs {item : Item} {texts : List String} (spells : item.Spells texts) :
    ∃ words, item.ReadAs texts words := by
  cases spells with
  | input bare => exact ⟨_, .of_input bare⟩
  | tolerant named =>
    obtain ⟨name, read⟩ := named.readWord_spell none
    exact ⟨_, .of_option (named.spell_ne_separator none) read (named.exists_readWord_program none)
      (fun _ => rfl) (fun draft => rfl)⟩
  | verbose verbose =>
    obtain ⟨option, read, whole, applied⟩ := verbose.exists_readWord
    exact ⟨_, .of_option verbose.ne_separator read verbose.exists_readWord_program
      (fun _ => whole) applied⟩
  | @apart _ _ word value valued named =>
    obtain ⟨name, read⟩ := named.readWord_spell none
    exact ⟨_, .of_pair valued (named.spell_ne_separator none) read
      (named.exists_readWord_program none)⟩
  | @attached _ _ word value valued named =>
    obtain ⟨name, read⟩ := named.readWord_spell (some value)
    refine ⟨_, .of_option (named.spell_ne_separator _) read (named.exists_readWord_program _) ?_ ?_⟩
    · exact fun bare => by cases bare
    · intro draft
      simp only [Recognised.applyTo, attachedValue, Option.map_some, applyAttached,
        valued.takesValue, if_true, String.ofList_toList, valued.applyValue]

end Item

/-! ## All items -/

/-- An item adds at most its own input. -/
theorem Item.length_input_addTo (draft : Draft) (item : Item) :
    (item.addTo draft).input.toList.length ≤
      item.input?.toList.length + draft.input.toList.length := by
  cases item <;> simp [Item.addTo, Item.input?]

/-- Where no word is the separator none is read as it. -/
theorem separator_notMem {table : OptionTable} {texts : List String} {words : List Word}
    (noSeparator : "--" ∉ texts) (read : readWords table texts = .ok words) :
    .separator ∉ words := by
  intro inside
  apply noSeparator
  rw [← map_text_readWords read]
  exact List.mem_map_of_mem inside

/-- The items change the draft one after the other, if there is one input at most. -/
theorem exists_readCheck {items : List Item} {spelled : List (List String)}
    (spells : List.Forall₂ Item.Spells items spelled) :
    ∃ words, "--" ∉ spelled.flatten ∧ readWords checkTable spelled.flatten = .ok words ∧
      ∀ draft : Draft, (items.filterMap Item.input?).length + draft.input.toList.length ≤ 1 →
        readCheck draft words = .ok (items.foldl Item.addTo draft) := by
  induction spells with
  | nil =>
    refine ⟨[], List.not_mem_nil, rfl, ?_⟩
    intro draft _
    rw [readCheck, List.foldl_nil]
  | @cons item texts items spelled spells _ ih =>
    obtain ⟨first, readAs⟩ := spells.exists_readAs
    obtain ⟨rest, noSeparator, readRest, run⟩ := ih
    refine ⟨first ++ rest, ?_, readWords_append readAs.noSeparator readAs.inner readRest, ?_⟩
    · simp [readAs.noSeparator, noSeparator]
    · intro draft single
      have noHead : rest.head? ≠ some .separator := fun begins =>
        separator_notMem noSeparator readRest (List.mem_of_head? begins)
      have counted : (item.input?.toList ++ items.filterMap Item.input?).length +
          draft.input.toList.length ≤ 1 := by
        cases given : item.input? <;> simpa [List.filterMap_cons, given] using single
      rw [List.length_append] at counted
      have kept := item.length_input_addTo draft
      rw [readAs.step draft rest noHead (by omega), List.foldl_cons]
      exact run _ (by omega)

/-- What the last of the items that set a field has set. -/
theorem foldl_addTo_or {α : Type} (field : Draft → Option α) (write : Item → Option α)
    (step : ∀ draft item, field (item.addTo draft) = (write item).or (field draft))
    (items : List Item) (draft : Draft) :
    field (items.foldl Item.addTo draft) =
      ((items.filterMap write).getLast?).or (field draft) := by
  induction items generalizing draft with
  | nil => rfl
  | cons item items ih =>
    rw [List.foldl_cons, ih, step]
    cases written : write item with
    | none => simp [written]
    | some value =>
      cases later : (items.filterMap write).getLast? <;>
        simp [written, List.getLast?_cons, later]

/-- A flag is set once it is among the items. -/
theorem foldl_addTo_flag (field : Draft → Bool) (flag : Item)
    (step : ∀ draft item, field (item.addTo draft) = (decide (item = flag) || field draft))
    (items : List Item) (draft : Draft) :
    field (items.foldl Item.addTo draft) = (decide (flag ∈ items) || field draft) := by
  induction items generalizing draft with
  | nil => simp
  | cons item items ih =>
    rw [List.foldl_cons, ih, step]
    by_cases same : item = flag
    · simp [same]
    · simp [same, Ne.symm same]

/-- Items leave no words over. -/
theorem extras_foldl_addTo (items : List Item) (draft : Draft) :
    (items.foldl Item.addTo draft).extras = draft.extras := by
  induction items generalizing draft with
  | nil => rfl
  | cons item items ih =>
    rw [List.foldl_cons, ih]
    cases item <;> rfl

/-- The last of at most one member is that member. -/
theorem getLast?_eq_some_iff_mem {α : Type} {items : List α} (few : items.length ≤ 1) {a : α} :
    items.getLast? = some a ↔ a ∈ items := by
  match items with
  | [] => simp
  | [first] => simp [eq_comm]
  | _ :: _ :: _ => simp at few

/-! ## The whole command line -/

/-- The program reads verbose flags before its command, and nothing else changes. -/
theorem exists_readProgram {flags : List String}
    (verbose : ∀ flag ∈ flags, IsVerbose .program flag) :
    ∃ words, "--" ∉ flags ∧ readWords programTable flags = .ok words ∧
      ∀ draft rest, readProgram draft (words ++ rest) =
        readProgram { draft with verbose := !flags.isEmpty || draft.verbose } rest := by
  induction flags with
  | nil => exact ⟨[], List.not_mem_nil, rfl, fun draft rest => rfl⟩
  | cons flag flags ih =>
    obtain ⟨first, others⟩ := List.forall_mem_cons.mp verbose
    obtain ⟨option, read, -, applied⟩ := first.exists_readWord
    obtain ⟨words, noSeparator, readFlags, run⟩ := ih others
    have readFlag : readWord programTable flag = .ok (.option flag option) := read
    refine ⟨.option flag option :: words, ?_, ?_, ?_⟩
    · simp [first.ne_separator.symm, noSeparator]
    · rw [readWords, if_neg first.ne_separator, readFlag, readFlags]
    · intro draft rest
      rw [List.cons_append, readProgram_option (applied draft), run]
      simp

/-- A command line of which every word can be read can be read. -/
theorem exists_readWords {table : OptionTable} {texts : List String}
    (readable : ∀ text ∈ texts, ∃ word, readWord table text = .ok word) :
    ∃ words, readWords table texts = .ok words := by
  induction texts with
  | nil => exact ⟨[], rfl⟩
  | cons text texts ih =>
    obtain ⟨⟨word, read⟩, others⟩ := List.forall_mem_cons.mp readable
    obtain ⟨words, readOthers⟩ := ih others
    by_cases separator : text = "--"
    · exact ⟨_, by rw [readWords, if_pos separator]⟩
    · exact ⟨word :: words, by rw [readWords, if_neg separator, read, readOthers]⟩

/-- A request: verbose flags before the command, then the input and options in any order and
spelling, those with a value at most once. -/
structure IsRequest (flags : List String) (items : List Item) (spelled : List (List String)) :
    Prop where
  verbose : ∀ flag ∈ flags, IsVerbose .program flag
  spells : List.Forall₂ Item.Spells items spelled
  input : (items.filterMap Item.input?).length = 1
  format : (items.filterMap Item.format?).length ≤ 1
  target : (items.filterMap Item.target?).length ≤ 1

/-- What the options of a request have to be. -/
structure Options.Answers (options : Options) (flags : List String) (items : List Item) : Prop where
  input : .input options.input ∈ items
  tolerant : options.tolerant = true ↔ .tolerant ∈ items
  format : .format options.format ∈ items ∨
    options.format = .text ∧ ∀ kind, .format kind ∉ items
  target : ∀ edition, options.target = some edition ↔ .target edition ∈ items
  verbose : options.verbose = true ↔ flags ≠ [] ∨ .verbose ∈ items

section Request

variable {flags : List String} {items : List Item} {spelled : List (List String)}

/-- The options that the items of a request make up. -/
def requested (flags : List String) (items : List Item) : Options :=
  let draft := items.foldl Item.addTo {}
  { input := draft.input.getD ""
    tolerant := draft.tolerant
    format := draft.format
    target := draft.target
    verbose := !flags.isEmpty || draft.verbose }

/-- An item that can be there once only decides its field. -/
theorem getLast?_filterMap_eq_some {α : Type} {write : Item → Option α} {say : α → Item}
    (same : ∀ {item value}, write item = some value ↔ item = say value)
    (few : (items.filterMap write).length ≤ 1) {value : α} :
    (items.filterMap write).getLast? = some value ↔ say value ∈ items := by
  rw [getLast?_eq_some_iff_mem few]
  simp [List.mem_filterMap, same]

/-- A request names an input. -/
theorem IsRequest.exists_input (request : IsRequest flags items spelled) :
    ∃ text, (items.filterMap Item.input?).getLast? = some text := by
  obtain ⟨text, alone⟩ := List.length_eq_one_iff.mp request.input
  exact ⟨text, by rw [alone, List.getLast?_singleton]⟩

/-- The options of a request answer its items. -/
theorem answers_requested (request : IsRequest flags items spelled) :
    (requested flags items).Answers flags items where
  input := by
    have set := foldl_addTo_or Draft.input Item.input?
      (by intro draft item; cases item <;> rfl) items {}
    obtain ⟨text, last⟩ := request.exists_input
    have listed := (getLast?_filterMap_eq_some Item.input?_eq_some request.input.le).mp last
    rw [last] at set
    simpa [requested, set] using listed
  tolerant := by
    have set := foldl_addTo_flag Draft.tolerant .tolerant
      (by intro draft item; cases item <;> rfl) items {}
    simp [requested, set]
  format := by
    have set := foldl_addTo_or (fun draft => some draft.format) Item.format?
      (by intro draft item; cases item <;> rfl) items {}
    have said : ∀ kind, (items.filterMap Item.format?).getLast? = some kind ↔
        .format kind ∈ items := fun _ =>
      getLast?_filterMap_eq_some Item.format?_eq_some request.format
    cases last : (items.filterMap Item.format?).getLast? with
    | none =>
      rw [last] at set said
      have unset : (requested flags items).format = .text := Option.some.inj set
      exact Or.inr ⟨unset, fun kind listed => by simpa using (said kind).mpr listed⟩
    | some kind =>
      rw [last] at set
      have same : (requested flags items).format = kind := Option.some.inj set
      rw [same]
      exact Or.inl ((said kind).mp last)
  target := by
    have set := foldl_addTo_or Draft.target Item.target?
      (by intro draft item; cases item <;> rfl) items {}
    intro edition
    rw [Option.or_none] at set
    rw [requested, set]
    exact getLast?_filterMap_eq_some Item.target?_eq_some request.target
  verbose := by
    have set := foldl_addTo_flag Draft.verbose .verbose
      (by intro draft item; cases item <;> rfl) items {}
    simp [requested, set]

/-- The program can read every word that spells an item. -/
theorem exists_readWord_of_spells (spells : List.Forall₂ Item.Spells items spelled) :
    ∀ text ∈ spelled.flatten, ∃ word, readWord programTable text = .ok word := by
  induction spells with
  | nil => simp
  | cons spells _ ih =>
    obtain ⟨words, readAs⟩ := spells.exists_readAs
    intro text inside
    rw [List.flatten_cons, List.mem_append] at inside
    obtain inside | inside := inside
    · exact readAs.outer text inside
    · exact ih text inside

/-- The command reads the words of a request as its items, added one after the other. -/
theorem parseCheck_spelled (request : IsRequest flags items spelled) :
    parseCheck spelled.flatten = .ok (items.foldl Item.addTo {}) := by
  obtain ⟨inner, -, read, change⟩ := exists_readCheck request.spells
  have set := foldl_addTo_or Draft.input Item.input?
    (by intro draft item; cases item <;> rfl) items {}
  have single : (items.filterMap Item.input?).length + (none : Option String).toList.length ≤ 1 :=
    request.input.le
  refine (parseCheck_eq_ok_iff _ _).mpr ⟨inner, read, change {} single, ?_⟩
  rw [Option.or_none] at set
  obtain ⟨text, last⟩ := request.exists_input
  rw [set, last, Option.isNone_some]

/-- A request is read as the options that its items make up. -/
theorem parse_request (request : IsRequest flags items spelled) :
    parse (flags ++ "check" :: spelled.flatten) = .ok (.check (requested flags items)) := by
  obtain ⟨before, noSeparator, readFlags, run⟩ := exists_readProgram request.verbose
  obtain ⟨after, readAfter⟩ := exists_readWords (exists_readWord_of_spells request.spells)
  have command : readWord programTable "check" = .ok (.operand "check") :=
    readWord_operand (by decide)
  have known : commands.contains "check" = true := by decide
  have readCommand : readWords programTable ("check" :: spelled.flatten) =
      .ok (.operand "check" :: after) := by
    rw [readWords, if_neg (by decide), command, readAfter]
  rw [parse, readWords_append noSeparator readFlags readCommand]
  dsimp only
  rw [run, readProgram, if_pos known, map_text_readWords readAfter, parseCheck_spelled request]
  have extras := extras_foldl_addTo items {}
  refine (finish_eq_check_iff _ _ _).mpr ⟨rfl, extras, ?_⟩
  simp [requested]

/-- Of what is written at most once there is one value. -/
theorem eq_of_mem_of_once {α : Type} {write : Item → Option α} {say : α → Item}
    (same : ∀ {item value}, write item = some value ↔ item = say value)
    (few : (items.filterMap write).length ≤ 1) {one other : α} (first : say one ∈ items)
    (second : say other ∈ items) : one = other := by
  have last := (getLast?_filterMap_eq_some same few).mpr first
  rw [(getLast?_filterMap_eq_some same few).mpr second] at last
  exact (Option.some.inj last).symm

/-- A request leaves no choice of the options. -/
theorem Options.Answers.unique (request : IsRequest flags items spelled) {one other : Options}
    (first : one.Answers flags items) (second : other.Answers flags items) : one = other := by
  have input : one.input = other.input :=
    eq_of_mem_of_once Item.input?_eq_some request.input.le first.input second.input
  have tolerant : one.tolerant = other.tolerant :=
    Bool.eq_iff_iff.mpr (first.tolerant.trans second.tolerant.symm)
  have format : one.format = other.format := by
    obtain said | ⟨unset, unsaid⟩ := first.format
    · obtain again | ⟨-, unsaid⟩ := second.format
      · exact eq_of_mem_of_once Item.format?_eq_some request.format said again
      · exact absurd said (unsaid _)
    · obtain again | ⟨unset', -⟩ := second.format
      · exact absurd again (unsaid _)
      · rw [unset, unset']
  have target : one.target = other.target :=
    Option.ext fun edition => (first.target edition).trans (second.target edition).symm
  have verbose : one.verbose = other.verbose :=
    Bool.eq_iff_iff.mpr (first.verbose.trans second.verbose.symm)
  cases one
  cases other
  simp_all

/-- The options of a request are those that its items say, and no other way to write the same items,
in whatever order and with flags repeated, asks for anything else. -/
theorem request_exact (request : IsRequest flags items spelled) :
    ∃ options, parse (flags ++ "check" :: spelled.flatten) = .ok (.check options) ∧
      options.Answers flags items ∧
      ∀ {others : List String} {rewritten : List Item} {respelled : List (List String)},
        IsRequest others rewritten respelled →
        (∀ item, item ≠ .verbose → (item ∈ rewritten ↔ item ∈ items)) →
        (others ≠ [] ∨ .verbose ∈ rewritten ↔ flags ≠ [] ∨ .verbose ∈ items) →
          parse (others ++ "check" :: respelled.flatten) = .ok (.check options) := by
  refine ⟨requested flags items, parse_request request, answers_requested request, ?_⟩
  intro others rewritten respelled again same heard
  have answers := answers_requested again
  -- What answers the other request answers this one, since both say the same.
  have transferred : (requested others rewritten).Answers flags items :=
    { input := (same _ (by simp)).mp answers.input
      tolerant := answers.tolerant.trans (same _ (by simp))
      format := by
        obtain said | ⟨unset, unsaid⟩ := answers.format
        · exact Or.inl ((same _ (by simp)).mp said)
        · exact Or.inr ⟨unset, fun kind said => unsaid kind ((same _ (by simp)).mpr said)⟩
      target := fun edition => (answers.target edition).trans (same _ (by simp))
      verbose := answers.verbose.trans heard }
  rw [parse_request again, transferred.unique request (answers_requested request)]

end Request

/-- One request in two forms, with the verbose flag before the command and after it. -/
theorem request_exact_rewritten :
    parse ["-v", "check", "--form=json", "a.js", "--ta", "ES2020", "--tol"] =
      parse ["check", "--tolerant", "--verb", "--target=11", "--tolerant", "a.js", "--format",
        "json", "-vv"] := by
  have form : Abbreviates Level.check.table "--form" .format := by decide
  have ta : Abbreviates Level.check.table "--ta" .target := by decide
  have tol : Abbreviates Level.check.table "--tol" .tolerant := by decide
  have verb : Abbreviates Level.check.table "--verb" .verbose := by decide
  have tolerant : Abbreviates Level.check.table "--tolerant" .tolerant :=
    abbreviates_name .check ("--tolerant", .tolerant) (by decide) (by decide)
  have format : Abbreviates Level.check.table "--format" .format := by decide
  have target : Abbreviates Level.check.table "--target" .target := by decide
  have named : Edition.parse "11" = .ok .es11 := rfl
  have bare : "a.js".toList.head? ≠ some '-' := by decide
  have first : IsRequest ["-v"] [.format .json, .input "a.js", .target .es11, .tolerant]
      [["--form=json"], ["a.js"], ["--ta", "ES2020"], ["--tol"]] :=
    { verbose := by
        rintro flag (_ | ⟨_, ⟨⟩⟩)
        exact .letters 0
      spells :=
        .cons (.attached (.format .json) form) <| .cons (.input bare) <|
        .cons (.apart (.target rfl) ta) <| .cons (.tolerant tol) .nil
      input := rfl
      format := Nat.le_refl 1
      target := Nat.le_refl 1 }
  have second : IsRequest []
      [.tolerant, .verbose, .target .es11, .tolerant, .input "a.js", .format .json, .verbose]
      [["--tolerant"], ["--verb"], ["--target=11"], ["--tolerant"], ["a.js"],
        ["--format", "json"], ["-vv"]] :=
    { verbose := fun flag inside => nomatch inside
      spells :=
        .cons (.tolerant tolerant) <| .cons (.verbose (.named verb)) <|
        .cons (.attached (.target named) target) <| .cons (.tolerant tolerant) <|
        .cons (.input bare) <| .cons (.apart (.format .json) format) <|
        .cons (.verbose (.letters 1)) .nil
      input := rfl
      format := Nat.le_refl 1
      target := Nat.le_refl 1 }
  obtain ⟨options, parsed, -, same⟩ := request_exact first
  have again := same second (by intro item; cases item <;> simp) (by simp)
  exact parsed.trans again.symm

end EcmaEdition.Command
