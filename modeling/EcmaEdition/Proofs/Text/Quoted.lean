import EcmaEdition.Proofs.Text.Category
import EcmaEdition.Text.Quoted
import Mathlib.Algebra.Group.Nat.Defs

/-!
# What a quoted text shows

A quoted text holds printable characters only, whatever the text itself holds
(`isPrintable_of_mem_quoted`). No two texts are quoted alike (`quoted_injective`): the first
character tells the mark, and with the mark known, each written character can be read back from the
left, so the ends of two equal rows of written characters are reached together.
-/

set_option autoImplicit false

namespace EcmaEdition.Text

/-! ## Hexadecimal digits -/

/-- The value of a lower-case hexadecimal digit. -/
def digitOf (digit : Char) : Nat :=
  if digit.toNat < 0x3A then digit.toNat - 0x30 else digit.toNat - 0x57

/-- The number that a row of hexadecimal digits writes. -/
def hexValue (digits : List Char) : Nat :=
  digits.foldl (fun value digit => 16 * value + digitOf digit) 0

/-- A hexadecimal digit is read back as its value. -/
theorem digitOf_hexDigit : ∀ value < 16, digitOf (hexDigit value) = value := by
  decide

/-- A hexadecimal digit is printable. -/
theorem isPrintable_hexDigit : ∀ value < 16, isPrintable (hexDigit value) = true := by
  decide +kernel

/-- A number is written in as many digits as are asked for. -/
theorem length_hexDigits (width value : Nat) : (hexDigits width value).length = width := by
  induction width generalizing value with
  | zero => rfl
  | succ width ih => rw [hexDigits, List.length_append, ih, List.length_singleton]

/-- A number that fits into its digits is read back from them. -/
theorem hexValue_hexDigits {width value : Nat} (small : value < 16 ^ width) :
    hexValue (hexDigits width value) = value := by
  induction width generalizing value with
  | zero =>
    rw [Nat.pow_zero] at small
    rw [hexDigits, hexValue, List.foldl_nil]
    omega
  | succ width ih =>
    have higher : value / 16 < 16 ^ width := by
      rw [Nat.pow_succ] at small
      omega
    have front := ih higher
    have last := digitOf_hexDigit (value % 16) (Nat.mod_lt value (by omega))
    rw [hexValue] at front
    rw [hexDigits, hexValue, List.foldl_append, front, List.foldl_cons, List.foldl_nil, last]
    omega

/-- The digits of a number are printable. -/
theorem isPrintable_of_mem_hexDigits {width value : Nat} {c : Char}
    (inside : c ∈ hexDigits width value) : isPrintable c = true := by
  induction width generalizing value with
  | zero => exact absurd inside List.not_mem_nil
  | succ width ih =>
    obtain front | last := List.mem_append.mp inside
    · exact ih front
    · rw [List.mem_singleton.mp last]
      exact isPrintable_hexDigit _ (Nat.mod_lt value (by omega))

/-! ## Written characters -/

/-- The ways to write a character between quotes of a mark. -/
inductive WrittenAs (mark c : Char) : List Char → Prop
  | marked (special : c = mark ∨ c = '\\') : WrittenAs mark c ['\\', c]
  | letter {letter : Char} (listed : (c, letter) ∈ [('\n', 'n'), ('\r', 'r'), ('\t', 't')]) :
    WrittenAs mark c ['\\', letter]
  | plain (other : c ≠ '\\') (differs : c ≠ mark) (printable : isPrintable c = true) :
    WrittenAs mark c [c]
  | code {letter : Char} {width : Nat} (listed : (letter, width) ∈ [('x', 2), ('u', 4), ('U', 8)])
    (small : c.toNat < 16 ^ width) :
    WrittenAs mark c ('\\' :: letter :: hexDigits width c.toNat)

/-- The escape of a code point is a form that its character may be written in. -/
theorem writtenAs_escapeCode (mark c : Char) : WrittenAs mark c (escapeCode c.toNat) := by
  have scalar : c.toNat < 0xD800 ∨ 0xDFFF < c.toNat ∧ c.toNat < 0x110000 := c.valid
  unfold escapeCode
  split
  · exact .code (by simp) (by omega)
  split
  · exact .code (by simp) (by omega)
  · exact .code (by simp) (by omega)

/-- A character is written in one of the forms that it may have between marks. -/
theorem writtenAs_escapeChar (mark c : Char) : WrittenAs mark c (escapeChar mark c) := by
  unfold escapeChar
  split
  · rename_i special
    exact .marked (by simpa using special)
  rename_i plain
  simp only [Bool.or_eq_true, decide_eq_true_eq, not_or] at plain
  split
  · rename_i same
    exact .letter (by simp [same])
  split
  · rename_i same
    exact .letter (by simp [same])
  split
  · rename_i same
    exact .letter (by simp [same])
  split
  · rename_i printable
    exact .plain plain.2 plain.1 printable
  · exact writtenAs_escapeCode mark c

/-- The mark is one of two. -/
theorem quoteMark_eq_or (text : List Char) : quoteMark text = '\'' ∨ quoteMark text = '"' := by
  unfold quoteMark
  split
  · exact Or.inr rfl
  · exact Or.inl rfl

/-- A character is written in printable characters alone. -/
theorem WrittenAs.isPrintable {mark c : Char} {text : List Char} (written : WrittenAs mark c text)
    (isMark : mark = '\'' ∨ mark = '"') : ∀ d ∈ text, isPrintable d = true := by
  have all : ['\\', '\'', '"', 'n', 'r', 't', 'x', 'u', 'U'].all Text.isPrintable = true := by
    decide +kernel
  have signs := List.all_eq_true.mp all
  have backslash := signs '\\' (by simp)
  cases written with
  | marked special =>
    have shown : Text.isPrintable c = true := by
      obtain rfl | rfl := special
      · obtain rfl | rfl := isMark <;> exact signs _ (by simp)
      · exact backslash
    simpa using ⟨backslash, shown⟩
  | @letter letter listed =>
    have shown : Text.isPrintable letter = true := by
      simp only [List.mem_cons, Prod.mk.injEq, List.not_mem_nil, or_false] at listed
      obtain ⟨-, rfl⟩ | ⟨-, rfl⟩ | ⟨-, rfl⟩ := listed <;> exact signs _ (by simp)
    simpa using ⟨backslash, shown⟩
  | plain other differs printable => simpa using printable
  | @code letter width listed small =>
    have shown : Text.isPrintable letter = true := by
      simp only [List.mem_cons, Prod.mk.injEq, List.not_mem_nil, or_false] at listed
      obtain ⟨rfl, -⟩ | ⟨rfl, -⟩ | ⟨rfl, -⟩ := listed <;> exact signs _ (by simp)
    have digits : ∀ d ∈ hexDigits width c.toNat, Text.isPrintable d = true :=
      fun d inside => isPrintable_of_mem_hexDigits inside
    simpa using ⟨backslash, shown, digits⟩

/-- A quoted text is printable. -/
theorem isPrintable_of_mem_quoted {text : List Char} {c : Char} (inside : c ∈ quoted text) :
    isPrintable c = true := by
  have isMark := quoteMark_eq_or text
  have mark : isPrintable (quoteMark text) = true := by
    obtain same | same := isMark <;> rw [same] <;> decide +kernel
  rw [quoted, List.cons_append, List.mem_cons, List.mem_append, List.mem_flatMap,
    List.mem_singleton] at inside
  obtain rfl | ⟨d, -, written⟩ | rfl := inside
  · exact mark
  · exact (writtenAs_escapeChar _ d).isPrintable isMark c written
  · exact mark

/-! ## Reading back -/

/-- The character whose code point is written in a number of digits, and what follows them. -/
def readCode (width : Nat) (text : List Char) : Char × List Char :=
  (Char.ofNat (hexValue (text.take width)), text.drop width)

/-- The character that a letter behind a backslash begins, and what follows it. -/
def readEscape (letter : Char) (rest : List Char) : Char × List Char :=
  match letter with
  | 'n' => ('\n', rest)
  | 'r' => ('\r', rest)
  | 't' => ('\t', rest)
  | 'x' => readCode 2 rest
  | 'u' => readCode 4 rest
  | 'U' => readCode 8 rest
  | _ => (letter, rest)

/-- The character that a text begins with as it stands between quotes, and what follows it. -/
def readChar : List Char → Option (Char × List Char)
  | [] => none
  | ['\\'] => none
  | '\\' :: letter :: rest => some (readEscape letter rest)
  | c :: rest => some (c, rest)

/-- The character of a code point is read back from the digits of it. -/
theorem readCode_hexDigits {width : Nat} {c : Char} (small : c.toNat < 16 ^ width)
    (rest : List Char) : readCode width (hexDigits width c.toNat ++ rest) = (c, rest) := by
  have length := length_hexDigits width c.toNat
  rw [readCode, List.take_left' length, List.drop_left' length, hexValue_hexDigits small,
    Char.ofNat_toNat]

/-- A character that is no backslash is read as itself. -/
theorem readChar_plain {c : Char} (other : c ≠ '\\') (rest : List Char) :
    readChar (c :: rest) = some (c, rest) := by
  rw [readChar]
  · simp [other]
  · simp [other]

/-- A written character is read back, whatever follows it. -/
theorem WrittenAs.readChar {mark c : Char} {text : List Char} (written : WrittenAs mark c text)
    (isMark : mark = '\'' ∨ mark = '"') (rest : List Char) :
    readChar (text ++ rest) = some (c, rest) := by
  cases written with
  | marked special =>
    obtain rfl | rfl := special
    · obtain rfl | rfl := isMark <;> rfl
    · rfl
  | letter listed =>
    simp only [List.mem_cons, Prod.mk.injEq, List.not_mem_nil, or_false] at listed
    obtain ⟨rfl, rfl⟩ | ⟨rfl, rfl⟩ | ⟨rfl, rfl⟩ := listed <;> rfl
  | plain other => exact readChar_plain other rest
  | code listed small =>
    simp only [List.mem_cons, Prod.mk.injEq, List.not_mem_nil, or_false] at listed
    obtain ⟨rfl, rfl⟩ | ⟨rfl, rfl⟩ | ⟨rfl, rfl⟩ := listed
    · exact congrArg some (readCode_hexDigits small rest)
    · exact congrArg some (readCode_hexDigits small rest)
    · exact congrArg some (readCode_hexDigits small rest)

/-- No character is written so that it begins with the mark. -/
theorem WrittenAs.head_ne {mark c : Char} {text : List Char} (written : WrittenAs mark c text)
    (isMark : mark = '\'' ∨ mark = '"') (rest : List Char) : (text ++ rest).head? ≠ some mark := by
  have other : '\\' ≠ mark := by
    obtain rfl | rfl := isMark <;> decide
  cases written with
  | marked | letter | code => simpa using other
  | plain _ differs => simpa using differs

/-- Texts that are written alike up to the mark are equal. The induction is on one of them; the
other must end where it ends, since no character is written with the mark in front. -/
theorem flatMap_escapeChar_injective {mark : Char} (isMark : mark = '\'' ∨ mark = '"')
    {first second : List Char} (same : first.flatMap (escapeChar mark) ++ [mark] =
      second.flatMap (escapeChar mark) ++ [mark]) : first = second := by
  induction first generalizing second with
  | nil =>
    cases second with
    | nil => rfl
    | cons d second =>
      have heads := congrArg List.head? same
      rw [List.flatMap_cons, List.append_assoc] at heads
      exact absurd heads.symm ((writtenAs_escapeChar mark d).head_ne isMark _)
  | cons c first ih =>
    have written := writtenAs_escapeChar mark c
    cases second with
    | nil =>
      have heads := congrArg List.head? same
      rw [List.flatMap_cons, List.append_assoc] at heads
      exact absurd heads (written.head_ne isMark _)
    | cons d second =>
      have written' := writtenAs_escapeChar mark d
      have read := congrArg Text.readChar same
      rw [List.flatMap_cons, List.flatMap_cons, List.append_assoc, List.append_assoc,
        written.readChar isMark, written'.readChar isMark, Option.some.injEq, Prod.mk.injEq] at read
      rw [read.1, ih read.2]

/-- Different texts are quoted differently. -/
theorem quoted_injective {first second : List Char} (same : quoted first = quoted second) :
    first = second := by
  rw [quoted, quoted, List.cons_append, List.cons_append, List.cons.injEq] at same
  obtain ⟨marks, written⟩ := same
  rw [marks] at written
  exact flatMap_escapeChar_injective (quoteMark_eq_or second) written

/-- Different strings are quoted differently. -/
theorem quote_injective {first second : String} (same : quote first = quote second) :
    first = second :=
  String.toList_inj.mp (quoted_injective (String.ofList_injective same))

end EcmaEdition.Text
