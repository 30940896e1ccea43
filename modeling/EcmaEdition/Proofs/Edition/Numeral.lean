import EcmaEdition.Proofs.Edition.Parse
import EcmaEdition.Proofs.Text.Numeral
import EcmaEdition.Proofs.Text.Variant

/-!
# Numbers and words for editions

A text is compared without the blanks around it and in upper case. In this form it is the word for
the newest edition, or a numeral: a row of digits, possibly behind `ES`. A numeral stands for an
edition if its number is the edition's rank or its year, and no number is of two editions. The ways
to answer are a relation (`Answers`) in which every text has exactly one answer, and that is the one
that is given (`parse_eq_iff`). All else is read off the relation.
-/

set_option autoImplicit false

namespace EcmaEdition.Edition

open EcmaEdition.Text

/-- A row of digits, possibly behind `ES`, that writes a number. -/
def IsNumeral (word digits : List Char) (number : Nat) : Prop :=
  (word = digits ∨ word = 'E' :: 'S' :: digits) ∧ Writes digits number

/-- A number is of an edition if it is the rank or the year. The newest edition has no number. -/
def HasNumber (edition : Edition) (number : Nat) : Prop :=
  edition ≠ .next ∧ (number = edition.rank ∨ edition.year? = some number)

/-- The answer to a text. -/
inductive Answers (text : String) : Except ParseError Edition → Prop where
  | next (word : normalize text.toList = ['E', 'S', 'N', 'E', 'X', 'T']) : Answers text (.ok .next)
  | numbered {digits : List Char} {number : Nat} {edition : Edition}
      (numeral : IsNumeral (normalize text.toList) digits number) (short : digits.length ≤ 4300)
      (has : edition.HasNumber number) : Answers text (.ok edition)
  | tooManyDigits {digits : List Char} {number : Nat}
      (numeral : IsNumeral (normalize text.toList) digits number) (long : 4300 < digits.length) :
      Answers text (.error (.tooManyDigits digits.length))
  | unknown (notNext : normalize text.toList ≠ ['E', 'S', 'N', 'E', 'X', 'T'])
      (unnumbered : ∀ digits number, IsNumeral (normalize text.toList) digits number →
        digits.length ≤ 4300 ∧ ∀ edition : Edition, ¬edition.HasNumber number) :
      Answers text (.error (.unknown text))

/-! ## Numerals -/

/-- Behind `ES` the digits are what follows it; any other text has to be a row of digits itself. -/
theorem digits?_eq (word : List Char) :
    (∃ rest, word = 'E' :: 'S' :: rest ∧
        digits? word = if !rest.isEmpty && rest.all isDigit then some rest else none) ∨
      (∀ rest, word ≠ 'E' :: 'S' :: rest) ∧
        digits? word = if !word.isEmpty && word.all isDigit then some word else none := by
  unfold digits?
  split
  · rename_i rest
    exact Or.inl ⟨rest, rfl, rfl⟩
  · rename_i other
    exact Or.inr ⟨other, rfl⟩

/-- The digits of a word are the whole of it, or what stands behind its `ES`. -/
theorem digits?_eq_some_iff {word digits : List Char} :
    digits? word = some digits ↔
      (word = digits ∨ word = 'E' :: 'S' :: digits) ∧ digits ≠ [] ∧
        ∀ c ∈ digits, isDigit c = true := by
  have row : ∀ rest : List Char,
      (if !rest.isEmpty && rest.all isDigit then some rest else none) = some digits ↔
        rest = digits ∧ digits ≠ [] ∧ ∀ c ∈ digits, isDigit c = true := by
    intro rest
    simp only [Option.ite_none_right_eq_some, Bool.and_eq_true, Bool.not_eq_true',
      List.isEmpty_eq_false_iff, List.all_eq_true, Option.some.injEq]
    constructor
    · rintro ⟨isRow, rfl⟩
      exact ⟨rfl, isRow⟩
    · rintro ⟨rfl, isRow⟩
      exact ⟨isRow, rfl⟩
  obtain ⟨rest, rfl, read⟩ | ⟨other, read⟩ := digits?_eq word
  · -- A row of digits does not begin with a letter.
    have letter : isDigit 'E' = false := by decide +kernel
    rw [read, row]
    constructor
    · rintro ⟨rfl, isRow⟩
      exact ⟨Or.inr rfl, isRow⟩
    · rintro ⟨rfl | behind, isRow⟩
      · exact absurd (isRow.2 'E' List.mem_cons_self) (by simp [letter])
      · exact ⟨by simpa using behind, isRow⟩
  · rw [read, row]
    simp [other digits]

/-- A word is a numeral if its digits write the number. -/
theorem isNumeral_iff {word digits : List Char} {number : Nat} :
    IsNumeral word digits number ↔ digits? word = some digits ∧ decimalValue digits = number := by
  rw [IsNumeral, writes_iff, digits?_eq_some_iff]
  simp only [and_assoc]

/-- A numeral has one row of digits and one number. -/
theorem IsNumeral.unique {word digits digits' : List Char} {number number' : Nat}
    (numeral : IsNumeral word digits number) (numeral' : IsNumeral word digits' number') :
    digits = digits' ∧ number = number' := by
  obtain ⟨read, rfl⟩ := isNumeral_iff.mp numeral
  obtain ⟨read', rfl⟩ := isNumeral_iff.mp numeral'
  obtain rfl : digits = digits' := Option.some.inj (read.symm.trans read')
  exact ⟨rfl, rfl⟩

/-- The name of the next edition is no numeral. -/
theorem not_isNumeral_next (digits : List Char) (number : Nat) :
    ¬IsNumeral ['E', 'S', 'N', 'E', 'X', 'T'] digits number := by
  have unread : digits? ['E', 'S', 'N', 'E', 'X', 'T'] = none := by decide +kernel
  rw [isNumeral_iff, unread]
  simp

/-! ## Numbers -/

/-- A numbered edition has its rank and its year as numbers. -/
theorem hasNumber_iff {edition : Edition} {number : Nat} :
    edition.HasNumber number ↔
      edition ≠ .next ∧ (number = edition.rank ∨ number = 2009 + edition.rank) := by
  refine and_congr_right ?_
  intro named
  rw [year?, if_neg named, Option.some.injEq, yearZero, eq_comm (a := number) (b := _ + _)]

/-- An edition is found by each of its numbers. -/
theorem ofNumber?_eq_some_iff {number : Nat} {edition : Edition} :
    ofNumber? number = some edition ↔ edition.HasNumber number := by
  rw [hasNumber_iff]
  constructor
  · -- Numbers above 2009 count as years, and no rank is one of them.
    intro found
    have same := List.find?_some found
    simp only [decide_not, Bool.and_eq_true, Bool.not_eq_true', decide_eq_false_iff_not,
      beq_iff_eq] at same
    obtain ⟨named, rank⟩ := same
    have zero : yearZero = 2009 := rfl
    refine ⟨named, ?_⟩
    split at rank <;> omega
  · rintro ⟨named, rfl | rfl⟩ <;> cases edition
    case inl.next | inr.next => exact absurd rfl named
    all_goals rfl

/-- The numbers of editions are the ranks from seven to sixteen and the years from 2016 to 2025. -/
theorem exists_hasNumber_iff {number : Nat} :
    (∃ edition : Edition, edition.HasNumber number) ↔
      7 ≤ number ∧ number ≤ 16 ∨ 2016 ≤ number ∧ number ≤ 2025 := by
  constructor
  · rintro ⟨edition, has⟩
    obtain ⟨named, number⟩ := hasNumber_iff.mp has
    have range : 7 ≤ edition.rank ∧ edition.rank ≤ 16 := by
      revert named
      cases edition <;> decide
    omega
  · have table : ∀ rank < 17, 7 ≤ rank →
        ∃ edition ∈ all, edition ≠ .next ∧ edition.rank = rank := by
      decide
    rintro (⟨least, greatest⟩ | ⟨least, greatest⟩)
    · obtain ⟨edition, -, named, rank⟩ := table number (by omega) least
      exact ⟨edition, hasNumber_iff.mpr ⟨named, Or.inl rank.symm⟩⟩
    · obtain ⟨edition, -, named, rank⟩ := table (number - 2009) (by omega) (by omega)
      exact ⟨edition, hasNumber_iff.mpr ⟨named, Or.inr (by omega)⟩⟩

/-- No two editions share a number. -/
theorem HasNumber.unique {a b : Edition} {number : Nat} (ha : a.HasNumber number)
    (hb : b.HasNumber number) : a = b := by
  rw [← ofNumber?_eq_some_iff] at ha hb
  exact Option.some.inj (ha.symm.trans hb)

/-! ## Answers -/

section Answers

variable {text : String}

/-- The name of the next edition names it. -/
theorem parse_of_word (word : normalize text.toList = ['E', 'S', 'N', 'E', 'X', 'T']) :
    parse text = .ok .next := by
  unfold parse
  exact if_pos word

/-- A numeral is answered by its length and its number. -/
theorem parse_of_isNumeral {digits : List Char} {number : Nat}
    (numeral : IsNumeral (normalize text.toList) digits number) :
    parse text =
      if 4300 < digits.length then .error (.tooManyDigits digits.length)
      else
        match ofNumber? number with
        | some edition => .ok edition
        | none => .error (.unknown text) := by
  have notNext : normalize text.toList ≠ ['E', 'S', 'N', 'E', 'X', 'T'] := by
    intro word
    rw [word] at numeral
    exact not_isNumeral_next _ _ numeral
  obtain ⟨read, rfl⟩ := isNumeral_iff.mp numeral
  unfold parse
  simp only [if_neg notNext, read]
  rfl

/-- A word that is neither that name nor a numeral names no edition. -/
theorem parse_of_not_isNumeral (notNext : normalize text.toList ≠ ['E', 'S', 'N', 'E', 'X', 'T'])
    (noNumeral : ∀ digits number, ¬IsNumeral (normalize text.toList) digits number) :
    parse text = .error (.unknown text) := by
  have unread : digits? (normalize text.toList) = none := by
    rw [Option.eq_none_iff_forall_ne_some]
    intro digits read
    exact noNumeral digits _ (isNumeral_iff.mpr ⟨read, rfl⟩)
  unfold parse
  simp only [if_neg notNext, unread]

/-- Every text has an answer, which is the one that is given. -/
theorem answers_parse (text : String) : Answers text (parse text) := by
  by_cases word : normalize text.toList = ['E', 'S', 'N', 'E', 'X', 'T']
  · rw [parse_of_word word]
    exact .next word
  by_cases numeral : ∃ digits number, IsNumeral (normalize text.toList) digits number
  · obtain ⟨digits, number, numeral⟩ := numeral
    rw [parse_of_isNumeral numeral]
    by_cases long : 4300 < digits.length
    · rw [if_pos long]
      exact .tooManyDigits numeral long
    · rw [if_neg long]
      cases found : ofNumber? number with
      | some edition => exact .numbered numeral (by omega) (ofNumber?_eq_some_iff.mp found)
      | none =>
        refine .unknown word ?_
        intro digits' number' numeral'
        obtain ⟨rfl, rfl⟩ := numeral.unique numeral'
        refine ⟨by omega, ?_⟩
        intro edition has
        rw [← ofNumber?_eq_some_iff, found] at has
        cases has
  · have noNumeral : ∀ digits number, ¬IsNumeral (normalize text.toList) digits number :=
      fun digits number isNumeral => numeral ⟨digits, number, isNumeral⟩
    rw [parse_of_not_isNumeral word noNumeral]
    exact .unknown word fun digits number isNumeral => absurd isNumeral (noNumeral digits number)

/-- A text is parsed as its answer. -/
theorem parse_of_answers {answer : Except ParseError Edition} (given : Answers text answer) :
    parse text = answer := by
  cases given with
  | next word => exact parse_of_word word
  | numbered numeral short has =>
    rw [parse_of_isNumeral numeral, if_neg (by omega), ofNumber?_eq_some_iff.mpr has]
  | tooManyDigits numeral long => rw [parse_of_isNumeral numeral, if_pos long]
  | unknown notNext unnumbered =>
    -- An unknown text is no numeral, or one whose number is of no edition.
    by_cases numeral : ∃ digits number, IsNumeral (normalize text.toList) digits number
    · obtain ⟨digits, number, numeral⟩ := numeral
      obtain ⟨short, noEdition⟩ := unnumbered digits number numeral
      have unfound : ofNumber? number = none := by
        rw [Option.eq_none_iff_forall_ne_some]
        intro edition found
        exact noEdition edition (ofNumber?_eq_some_iff.mp found)
      rw [parse_of_isNumeral numeral, if_neg (by omega), unfound]
    · refine parse_of_not_isNumeral notNext ?_
      exact fun digits number isNumeral => numeral ⟨digits, number, isNumeral⟩

/-- A text has the answer that it is parsed as, and no other. -/
theorem parse_eq_iff {answer : Except ParseError Edition} :
    parse text = answer ↔ Answers text answer := by
  constructor
  · rintro rfl
    exact answers_parse text
  · exact parse_of_answers

/-- The name of the next edition names it, and no other word does. -/
theorem parse_eq_next_iff :
    parse text = .ok .next ↔ normalize text.toList = ['E', 'S', 'N', 'E', 'X', 'T'] := by
  rw [parse_eq_iff]
  constructor
  · intro given
    cases given with
    | next word => exact word
    | numbered _ _ has => exact absurd rfl has.1
  · exact .next

/-- A numbered edition is named by the numerals of its numbers that are not too long. -/
theorem parse_eq_numbered_iff {edition : Edition} (named : edition ≠ .next) :
    parse text = .ok edition ↔
      ∃ digits number, IsNumeral (normalize text.toList) digits number ∧ digits.length ≤ 4300 ∧
        edition.HasNumber number := by
  rw [parse_eq_iff]
  constructor
  · intro given
    cases given with
    | next => exact absurd rfl named
    | numbered numeral short has => exact ⟨_, _, numeral, short, has⟩
  · rintro ⟨digits, number, numeral, short, has⟩
    exact .numbered numeral short has

/-- Which edition a text names depends on the form in which it is compared. -/
theorem parse_congr {other : String} (same : normalize other.toList = normalize text.toList)
    (edition : Edition) : parse other = .ok edition ↔ parse text = .ok edition := by
  by_cases named : edition = .next
  · rw [named, parse_eq_next_iff, parse_eq_next_iff, same]
  · rw [parse_eq_numbered_iff named, parse_eq_numbered_iff named, same]

end Answers

/-! ## Words -/

/-- The words for an edition: its label, and for a numbered edition also its number alone, and its
year with `ES` or without. -/
def words (edition : Edition) : List String :=
  match edition.year? with
  | some year => [edition.label, toString edition.rank, toString year, "ES" ++ toString year]
  | none => [edition.label]

/-- All editions are listed. -/
theorem mem_all (edition : Edition) : edition ∈ all := by
  cases edition <;> decide

/-- The words for an edition are plain. -/
theorem isPlain_of_mem_words {edition : Edition} {word : String} (listed : word ∈ edition.words) :
    word.toList ≠ [] ∧ ∀ c ∈ word.toList, IsPlain c := by
  have table : ∀ edition ∈ all, ∀ word ∈ edition.words,
      word.toList ≠ [] ∧ word.toList.all (fun c => c.toNat < 0x80 && !isBlank c) = true := by
    decide +kernel
  obtain ⟨nonempty, plain⟩ := table edition (mem_all edition) word listed
  refine ⟨nonempty, fun c inside => ?_⟩
  simpa [IsPlain] using List.all_eq_true.mp plain c inside

/-- In capitals the words for an edition are the word for the newest one, or numerals for it. -/
theorem capitals_of_mem_words {edition : Edition} {word : String} (listed : word ∈ edition.words) :
    edition = .next ∧ word.toList.map Char.toUpper = ['E', 'S', 'N', 'E', 'X', 'T'] ∨
      ∃ digits number, IsNumeral (word.toList.map Char.toUpper) digits number ∧
        digits.length ≤ 4300 ∧ edition.HasNumber number := by
  have table : ∀ edition ∈ all, ∀ word ∈ edition.words,
      edition = .next ∧ word.toList.map Char.toUpper = ['E', 'S', 'N', 'E', 'X', 'T'] ∨
        ∃ digits ∈ digits? (word.toList.map Char.toUpper),
          digits.length ≤ 4300 ∧ ofNumber? (decimalValue digits) = some edition := by
    decide +kernel
  obtain next | ⟨digits, read, short, found⟩ := table edition (mem_all edition) word listed
  · exact Or.inl next
  · exact Or.inr ⟨digits, _, isNumeral_iff.mpr ⟨read, rfl⟩, short, ofNumber?_eq_some_iff.mp found⟩

/-- A word for an edition names it in any case of its letters and with any blanks around. -/
theorem parse_padded {edition : Edition} {word : String} {before spelled after : List Char}
    (listed : word ∈ edition.words) (variant : IsVariant word.toList spelled)
    (leading : AreBlanks before) (trailing : AreBlanks after) :
    parse (String.ofList (before ++ spelled ++ after)) = .ok edition := by
  obtain ⟨nonempty, plain⟩ := isPlain_of_mem_words listed
  have normal : normalize (String.ofList (before ++ spelled ++ after)).toList =
      word.toList.map Char.toUpper := by
    rw [String.toList_ofList, normalize, upper_strip_padded plain nonempty variant leading trailing,
      upper_ascii fun c inside => (plain c inside).1]
  rw [parse_eq_iff]
  obtain ⟨rfl, capitals⟩ | ⟨digits, number, numeral, short, has⟩ := capitals_of_mem_words listed
  · exact .next (normal.trans capitals)
  · exact .numbered (normal ▸ numeral) short has

/-- A text names the newest edition if and only if it is its word, and a numbered edition if and
only if it is a numeral of at most 4300 digits for the edition's rank or year; both without the
blanks around it and in upper case. A longer numeral is refused for its length and any other text as
unknown, with the text as it was given. So no numeral names the newest edition, no number is of two
editions, texts that are compared alike have the same answer, and each word for an edition names it
in any case and between blanks. -/
theorem parse_exact (text : String) :
    (parse text = .ok .next ↔ normalize text.toList = ['E', 'S', 'N', 'E', 'X', 'T']) ∧
      (∀ edition, edition ≠ .next → (parse text = .ok edition ↔
        ∃ digits number, IsNumeral (normalize text.toList) digits number ∧ digits.length ≤ 4300 ∧
          (number = edition.rank ∨ number = 2009 + edition.rank))) ∧
      (∀ digits number, IsNumeral (normalize text.toList) digits number → 4300 < digits.length →
        ∃ error, parse text = .error error ∧ error.message =
          "Exceeds the limit (4300 digits) for integer string conversion: value has " ++
            toString digits.length ++
            " digits; use sys.set_int_max_str_digits() to increase the limit") ∧
      (normalize text.toList ≠ ['E', 'S', 'N', 'E', 'X', 'T'] →
        (∀ digits number, IsNumeral (normalize text.toList) digits number →
          digits.length ≤ 4300 ∧ ∀ edition : Edition, ¬edition.HasNumber number) →
        ∃ error, parse text = .error error ∧
          error.message = "Unknown ECMAScript edition: " ++ quote text) ∧
      (∀ digits number, IsNumeral (normalize text.toList) digits number →
        parse text ≠ .ok .next) ∧
      (∀ number, (∃ edition : Edition, edition.HasNumber number) ↔
        7 ≤ number ∧ number ≤ 16 ∨ 2016 ≤ number ∧ number ≤ 2025) ∧
      (∀ (a b : Edition) number, a.HasNumber number → b.HasNumber number → a = b) ∧
      (∀ other : String, normalize other.toList = normalize text.toList →
        ∀ edition, parse other = .ok edition ↔ parse text = .ok edition) ∧
      ∀ edition : Edition, ∀ word ∈ edition.words, ∀ before spelled after,
        AreBlanks before → IsVariant word.toList spelled → AreBlanks after →
          text = String.ofList (before ++ spelled ++ after) → parse text = .ok edition := by
  refine ⟨parse_eq_next_iff, ?_, ?_, ?_, ?_, fun _ => exists_hasNumber_iff,
    fun _ _ _ => HasNumber.unique, fun _ => parse_congr, ?_⟩
  · intro edition named
    rw [parse_eq_numbered_iff named]
    simp only [hasNumber_iff, named, ne_eq, not_false_eq_true, true_and]
  · intro digits number numeral long
    exact ⟨_, parse_of_answers (.tooManyDigits numeral long), rfl⟩
  · intro notNext unnumbered
    exact ⟨_, parse_of_answers (.unknown notNext unnumbered), rfl⟩
  · intro digits number numeral next
    rw [parse_eq_next_iff] at next
    rw [next] at numeral
    exact not_isNumeral_next digits number numeral
  · rintro edition word listed before spelled after leading variant trailing rfl
    exact parse_padded listed variant leading trailing

/-- The year of the seventh edition in Arabic digits, behind a letter whose capital is `S`. -/
def arabicYear : String := " eſ٢٠١٦\n"

/-- In this form it names the edition, and so does its label in small letters between blanks; a text
whose number is no edition's is refused with the blanks that it has. -/
theorem parse_exact_arabicYear :
    parse arabicYear = .ok .es7 ∧ parse "\tes7 " = .ok .es7 ∧
      ∃ error, parse "99 " = .error error ∧
        error.message = "Unknown ECMAScript edition: '99 '" := by
  have year : IsNumeral (normalize arabicYear.toList) ['٢', '٠', '١', '٦'] 2016 :=
    isNumeral_iff.mpr (by decide +kernel)
  have sentinel : IsNumeral (normalize "99 ".toList) ['9', '9'] 99 :=
    isNumeral_iff.mpr (by decide +kernel)
  have unnumbered : ∀ digits number, IsNumeral (normalize "99 ".toList) digits number →
      digits.length ≤ 4300 ∧ ∀ edition : Edition, ¬edition.HasNumber number := by
    intro digits number numeral
    obtain ⟨rfl, rfl⟩ := sentinel.unique numeral
    refine ⟨by decide, ?_⟩
    intro edition has
    have range := exists_hasNumber_iff.mp ⟨edition, has⟩
    omega
  refine ⟨((parse_exact _).2.1 .es7 (by decide)).mpr ⟨_, _, year, by decide, Or.inr rfl⟩, ?_, ?_⟩
  · obtain ⟨-, -, -, -, -, -, -, -, padded⟩ := parse_exact "\tes7 "
    exact padded .es7 "ES7" (by decide) ['\t'] ['e', 's', '7'] [' '] (by decide) (by decide)
      (by decide) rfl
  · obtain ⟨-, -, -, unknown, -⟩ := parse_exact "99 "
    have notNext : normalize "99 ".toList ≠ ['E', 'S', 'N', 'E', 'X', 'T'] := by decide +kernel
    exact unknown notNext unnumbered

end EcmaEdition.Edition
