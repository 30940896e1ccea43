import EcmaEdition.Command.Options
import EcmaEdition.Proofs.Edition.Parse

/-!
# Adding to a command line

A command line is read from left to right, and what has been read so far is kept in a draft. So an
option at the end of a command line for `check` is applied to the draft that the words before it
left: it changes its own field of the options and nothing else. This needs that the line has no
separator, after which an option would be an operand.
-/

set_option autoImplicit false

namespace EcmaEdition.Command

variable {table : OptionTable}

/-! ## Words -/

/-- Before a separator a text becomes an option, an operand or an unknown word, and is kept. -/
theorem readWord_cases {text : String} {word : Word} (read : readWord table text = .ok word) :
    (∃ option, word = .option text option) ∨ word = .operand text ∨ word = .unknown text := by
  unfold readWord at read
  dsimp only at read
  split at read
  · split at read
    · cases read
      exact Or.inl ⟨_, rfl⟩
    · split at read
      · cases read
        exact Or.inl ⟨_, rfl⟩
      · split at read <;> cases read
        · exact Or.inr (Or.inl rfl)
        · exact Or.inr (Or.inr rfl)
      · cases read
  · cases read
    exact Or.inr (Or.inl rfl)

/-- A word that is read keeps its text. -/
theorem text_of_readWord {text : String} {word : Word} (read : readWord table text = .ok word) :
    word.text = text := by
  obtain ⟨option, rfl⟩ | rfl | rfl := readWord_cases read <;> rfl

/-- A text that does not begin with a hyphen is an operand. -/
theorem readWord_operand {text : String} (bare : text.toList.head? ≠ some '-') :
    readWord table text = .ok (.operand text) := by
  unfold readWord
  dsimp only
  split
  · rename_i hyphen
    simp [hyphen] at bare
  · rfl

/-- What does not begin with a hyphen is not the separator. -/
theorem ne_separator {text : String} (bare : text.toList.head? ≠ some '-') : text ≠ "--" := by
  rintro rfl
  exact bare rfl

/-- Before a separator the first word of a command line is read by itself. -/
theorem exists_of_readWords_cons {text : String} {rest : List String} {words : List Word}
    (other : text ≠ "--") (read : readWords table (text :: rest) = .ok words) :
    ∃ word restWords, readWord table text = .ok word ∧ readWords table rest = .ok restWords ∧
      words = word :: restWords := by
  rw [readWords, if_neg other] at read
  cases head : readWord table text with
  | error ambiguity => simp [head] at read
  | ok word =>
    cases tail : readWords table rest with
    | error ambiguity => simp [head, tail] at read
    | ok restWords =>
      have same : word :: restWords = words := by simpa [head, tail] using read
      exact ⟨word, restWords, rfl, rfl, same.symm⟩

/-- The words of a command line, put in front of what its other part is read as. -/
theorem readWords_append {first : List String} {words : List Word} (noSeparator : "--" ∉ first)
    (read : readWords table first = .ok words) {second : List String} {others : List Word}
    (readOthers : readWords table second = .ok others) :
    readWords table (first ++ second) = .ok (words ++ others) := by
  induction first generalizing words with
  | nil =>
    cases read
    exact readOthers
  | cons text rest ih =>
    have other : text ≠ "--" := by
      rintro rfl
      exact noSeparator List.mem_cons_self
    have restNoSeparator : "--" ∉ rest := fun inside => noSeparator (List.mem_cons_of_mem _ inside)
    obtain ⟨word, restWords, head, tail, rfl⟩ := exists_of_readWords_cons other read
    rw [List.cons_append, readWords, if_neg other, head, ih restNoSeparator tail, List.cons_append]

/-- A command line can be recovered from its words. -/
theorem map_text_readWords {texts : List String} {words : List Word}
    (read : readWords table texts = .ok words) : words.map Word.text = texts := by
  induction texts generalizing words with
  | nil =>
    cases read
    rfl
  | cons text rest ih =>
    by_cases separator : text = "--"
    · -- All words behind the separator are operands and stay as they are.
      rw [readWords, if_pos separator] at read
      cases read
      rw [separator, List.map_cons, List.map_map]
      exact congrArg _ (List.map_id rest)
    · obtain ⟨word, restWords, head, tail, rfl⟩ := exists_of_readWords_cons separator read
      rw [List.map_cons, text_of_readWord head, ih tail]

/-! ## The command -/

/-- The reading of an accepted row of words goes on at the option that follows it. An operand or a
separator in its place could change what the last of the words is. -/
theorem readCheck_append_option {draft result : Draft} {words : List Word}
    (read : readCheck draft words = .ok result) (text : String) (option : Recognised)
    (rest : List Word) :
    readCheck draft (words ++ .option text option :: rest) =
      readCheck result (.option text option :: rest) := by
  fun_induction readCheck draft words with
  | case1 =>
    cases read
    rfl
  -- An option without its value, or one that cannot be applied, is not accepted.
  | case10 | case12 | case13 | case15 => cases read
  | case4 draft operand unfilled others noSeparator ih =>
    -- What follows the operand is still no separator.
    rw [← ih read, List.cons_append, readCheck.eq_def]
    dsimp only
    rw [if_neg unfilled]
    cases others with
    | nil => rfl
    | cons next others =>
      cases next with
      | separator => exact absurd rfl (noSeparator others)
      | _ => rfl
  | case7 draft unfilled others noOperand ih =>
    rw [← ih read, List.cons_append, readCheck.eq_def]
    dsimp only
    rw [if_neg unfilled]
    cases others with
    | nil => rfl
    | cons next others =>
      cases next with
      | operand text => exact absurd rfl (noOperand text others)
      | _ => rfl
  | case3 draft operand unfilled others ih | case6 draft unfilled operand others ih =>
    rw [← ih read, List.cons_append, readCheck.eq_def]
    dsimp only
    rw [if_neg unfilled]
    rfl
  | case2 draft operand others filled ih =>
    rw [← ih read, List.cons_append, readCheck.eq_def]
    exact if_pos filled
  | case5 draft others filled ih =>
    rw [← ih read, List.cons_append, readCheck.eq_def]
    exact if_pos filled
  | case8 draft unknown others ih => rw [← ih read, List.cons_append, readCheck]
  | case9 draft word option others attached found next applied ih =>
    rw [← ih read, List.cons_append, readCheck.eq_def]
    simp only [found, applied]
  | case11 draft word option bare takesValue value others next applied ih =>
    rw [← ih read, List.cons_append, readCheck.eq_def]
    simp only [bare, takesValue, if_true, List.cons_append, applied]
  | case14 draft word option others bare takesNone next applied ih =>
    rw [← ih read, List.cons_append, readCheck.eq_def]
    simp only [bare, takesNone, applied]
    rfl

/-- The end of a command line for `check`: no word is left over, and the options are those of the
draft, with the lines for those who follow the run if either level asks for them. -/
theorem finish_eq_check_iff (program draft : Draft) (options : Options) :
    finish program (some draft) = .ok (.check options) ↔
      program.extras = [] ∧ draft.extras = [] ∧
        options = {
          input := draft.input.getD ""
          tolerant := draft.tolerant
          format := draft.format
          target := draft.target
          verbose := program.verbose || draft.verbose } := by
  unfold finish
  simp only [Option.map_some, Option.getD_some]
  by_cases none : program.extras ++ draft.extras = []
  · obtain ⟨outer, inner⟩ := List.append_eq_nil_iff.mp none
    simp [outer, inner, eq_comm]
  · have some : ¬(program.extras = [] ∧ draft.extras = []) := by
      rwa [← List.append_eq_nil_iff]
    simp [none, ← and_assoc, some]

/-- The request of a program that has got to the words of `check`. -/
def readCommand (program : Draft) (texts : List String) : Except Stop Request :=
  match parseCheck texts with
  | .ok check => finish program (some check)
  | .error stop => .error stop

/-- Without a command nothing is checked. -/
theorem finish_none_ne_check (program : Draft) (options : Options) :
    finish program none ≠ .ok (.check options) := by
  unfold finish
  dsimp only
  split <;> simp

/-- A command line that is accepted for `check` gets to words of `check`, and whatever is added at
its end is added to them. -/
theorem exists_readCommand {draft : Draft} {words : List Word} {options : Options}
    (read : readProgram draft words = .ok (.check options)) :
    ∃ (program : Draft) (inner : List Word), inner <:+ words ∧
      ∀ added, readProgram draft (words ++ added) =
        readCommand program ((inner ++ added).map Word.text) := by
  fun_induction readProgram draft words with
  | case1 draft => exact absurd read (finish_none_ne_check draft options)
  | case5 draft => exact absurd read (finish_none_ne_check _ options)
  | case3 | case4 | case6 | case9 | case11 => cases read
  | case2 draft name rest known =>
    refine ⟨draft, rest, List.suffix_cons _ _, ?_⟩
    intro added
    rw [List.cons_append, readProgram, if_pos known]
    rfl
  | case7 draft text rest ih =>
    obtain ⟨program, inner, left, same⟩ := ih read
    exact ⟨program, inner, left.trans (List.suffix_cons _ _), same⟩
  | case8 draft text option rest attached found next applied ih =>
    obtain ⟨program, inner, left, same⟩ := ih read
    refine ⟨program, inner, left.trans (List.suffix_cons _ _), ?_⟩
    intro added
    rw [List.cons_append, readProgram]
    simp only [found, applied, same]
  | case10 draft text option rest bare next applied ih =>
    obtain ⟨program, inner, left, same⟩ := ih read
    refine ⟨program, inner, left.trans (List.suffix_cons _ _), ?_⟩
    intro added
    rw [List.cons_append, readProgram]
    simp only [bare, applied, same]

/-- The command is read if its words are, and if they make a request. -/
theorem readCommand_eq_ok_iff (program : Draft) (texts : List String) (request : Request) :
    readCommand program texts = .ok request ↔
      ∃ check, parseCheck texts = .ok check ∧ finish program (some check) = .ok request := by
  unfold readCommand
  cases parseCheck texts <;> simp

/-- The words of `check` are accepted if they can be read one by one and the input is among them. -/
theorem parseCheck_eq_ok_iff (texts : List String) (check : Draft) :
    parseCheck texts = .ok check ↔
      ∃ words, readWords checkTable texts = .ok words ∧ readCheck {} words = .ok check ∧
        check.input.isNone = false := by
  unfold parseCheck
  cases readWords checkTable texts with
  | error ambiguity => simp
  | ok words =>
    cases read : readCheck {} words with
    | error stop => simp [read]
    | ok draft =>
      cases missing : draft.input.isNone with
      | true =>
        simp only [missing, if_true, reduceCtorEq, false_iff, Except.ok.injEq, exists_eq_left',
          read, not_and]
        rintro rfl
        simp [missing]
      | false =>
        simp only [missing, Bool.false_eq_true, if_false, Except.ok.injEq, exists_eq_left', read]
        constructor
        · rintro rfl
          exact ⟨rfl, missing⟩
        · rintro ⟨rfl, -⟩
          rfl

/-- An option at the end of a command line for `check`, possibly with its value, is applied to what
the words before it left. The program, which also reads it, must be able to. -/
theorem parse_append {texts : List String} {options : Options}
    (accepted : parse texts = .ok (.check options)) (noSeparator : "--" ∉ texts)
    {added : List String} {outer : List Word} (readOuter : readWords programTable added = .ok outer)
    {text : String} {option : Recognised} {rest : List Word}
    (readInner : readWords checkTable added = .ok (.option text option :: rest)) :
    ∃ program check : Draft, finish program (some check) = .ok (.check options) ∧
      ∀ next, readCheck check (.option text option :: rest) = .ok next → next.input = check.input →
        parse (texts ++ added) = finish program (some next) := by
  unfold parse at accepted
  cases readTexts : readWords programTable texts with
  | error ambiguity => simp [readTexts] at accepted
  | ok words =>
    rw [readTexts] at accepted
    obtain ⟨program, inner, left, same⟩ := exists_readCommand accepted
    have inside : inner.map Word.text <:+ texts := by
      rw [← map_text_readWords readTexts]
      exact left.map _
    have innerNoSeparator : "--" ∉ inner.map Word.text := fun listed =>
      noSeparator (inside.subset listed)
    have reached : readCommand program (inner.map Word.text) = .ok (.check options) := by
      rw [← accepted, ← List.append_nil inner, ← same, List.append_nil]
    obtain ⟨check, parsed, finished⟩ := (readCommand_eq_ok_iff _ _ _).mp reached
    obtain ⟨checkWords, readInnerTexts, readChecked, given⟩ := (parseCheck_eq_ok_iff _ _).mp parsed
    refine ⟨program, check, finished, ?_⟩
    intro next readNext kept
    -- Both levels read the longer line word by word, and `check` goes on where it stopped.
    have longer : parseCheck (inner.map Word.text ++ added) = .ok next := by
      rw [parseCheck_eq_ok_iff]
      refine ⟨_, readWords_append innerNoSeparator readInnerTexts readInner, ?_, ?_⟩
      · rw [readCheck_append_option readChecked, readNext]
      · rw [kept, given]
    rw [parse, readWords_append noSeparator readTexts readOuter]
    dsimp only
    rw [same, List.map_append, map_text_readWords readOuter, readCommand, longer]

/-- The words of an option and of its value, which does not look like an option itself. -/
theorem readWords_pair {name value : String} {word : Word} (other : name ≠ "--")
    (read : readWord table name = .ok word) (bare : value.toList.head? ≠ some '-') :
    readWords table [name, value] = .ok [word, .operand value] := by
  rw [readWords, if_neg other, read, readWords, if_neg (ne_separator bare), readWord_operand bare,
    readWords]

/-- A command line may name a file and nothing else. -/
theorem parse_input {text : String} (bare : text.toList.head? ≠ some '-') :
    parse ["check", text] = .ok (.check { input := text }) := by
  have other : "check" ≠ "--" := by decide
  have readOuter : readWords programTable ["check", text] = .ok [.operand "check", .operand text] :=
    readWords_pair other rfl bare
  have readInner : readWords checkTable [text] = .ok [.operand text] := by
    rw [readWords, if_neg (ne_separator bare), readWord_operand bare, readWords]
  have read : readCheck {} [.operand text] = .ok { input := some text } := by
    rw [readCheck, if_neg (by simp), readCheck]
    simp
  have parsed : parseCheck [text] = .ok { input := some text } :=
    (parseCheck_eq_ok_iff _ _).mpr ⟨_, readInner, read, rfl⟩
  have known : commands.contains "check" = true := by decide
  rw [parse, readOuter]
  dsimp only
  rw [readProgram, if_pos known]
  exact (readCommand_eq_ok_iff _ _ _).mpr ⟨_, parsed, rfl⟩

/-- A target at the end of a command line replaces the target that it has. -/
theorem parse_append_target {texts : List String} {options : Options}
    (accepted : parse texts = .ok (.check options)) (noSeparator : "--" ∉ texts)
    {text : String} {edition : Edition} (named : Edition.parse text = .ok edition) :
    parse (texts ++ ["--target", text]) = .ok (.check { options with target := some edition }) := by
  have bare := Edition.head_ne_hyphen_of_parse named
  have other : "--target" ≠ "--" := by decide
  obtain ⟨program, check, finished, append⟩ :=
    parse_append accepted noSeparator (readWords_pair other rfl bare)
      (readWords_pair other rfl bare)
  obtain ⟨outer, inner, rfl⟩ := (finish_eq_check_iff program check options).mp finished
  have read : readCheck check
      [.option "--target" ⟨.target, "--target", none⟩, .operand text] =
        .ok { check with target := some edition } := by
    simp only [readCheck, Action.takesValue, if_true, Draft.applyValue, named]
  rw [append _ read rfl, finish_eq_check_iff]
  exact ⟨outer, inner, rfl⟩

/-- The flag at the end of a command line that asks for the lines for those who follow the run. -/
theorem parse_append_verbose {texts : List String} {options : Options}
    (accepted : parse texts = .ok (.check options)) (noSeparator : "--" ∉ texts) {flag : String}
    (spelled : flag = "-v" ∨ flag = "--verbose") :
    parse (texts ++ [flag]) = .ok (.check { options with verbose := true }) := by
  have readFlag : readWords programTable [flag] = .ok [.option flag ⟨.verbose, flag, none⟩] ∧
      readWords checkTable [flag] = .ok [.option flag ⟨.verbose, flag, none⟩] := by
    obtain rfl | rfl := spelled <;> exact ⟨rfl, rfl⟩
  obtain ⟨program, check, finished, append⟩ :=
    parse_append accepted noSeparator readFlag.1 readFlag.2
  obtain ⟨outer, inner, rfl⟩ := (finish_eq_check_iff program check options).mp finished
  have read : readCheck check [.option flag ⟨.verbose, flag, none⟩] =
      .ok { check with verbose := true } := by
    simp only [readCheck, Action.takesValue, Draft.applyFlag]
    rfl
  rw [append _ read rfl, finish_eq_check_iff]
  refine ⟨outer, inner, ?_⟩
  rw [Bool.or_true]

end EcmaEdition.Command
