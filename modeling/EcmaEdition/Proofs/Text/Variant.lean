import EcmaEdition.Text.Character
import EcmaEdition.Text.Uppercase

/-!
# Blanks around a word and the case of its letters

Blanks around a word without blanks are removed, and nothing else is (`strip_padded`). In ASCII the
upper case is the usual one, letter by letter, so two words that differ in the case of ASCII letters
alone have the same upper case (`upper_of_isVariant`).
-/

set_option autoImplicit false

namespace EcmaEdition.Text

/-- Blanks and nothing else. -/
def AreBlanks (text : List Char) : Prop :=
  ∀ c ∈ text, isBlank c = true

instance (text : List Char) : Decidable (AreBlanks text) :=
  decidable_of_iff (text.all isBlank = true) List.all_eq_true

/-- A character that stands inside a word: an ASCII character that is no blank. -/
def IsPlain (c : Char) : Prop :=
  c.toNat < 0x80 ∧ isBlank c = false

/-- Two words differ in the case of ASCII letters at most. -/
def IsVariant (word spelled : List Char) : Prop :=
  spelled.map Char.toUpper = word.map Char.toUpper

instance (word spelled : List Char) : Decidable (IsVariant word spelled) :=
  inferInstanceAs (Decidable (spelled.map Char.toUpper = word.map Char.toUpper))

/-- The blanks before a word end where it begins. -/
theorem dropWhile_word {word : List Char} (noBlank : ∀ c ∈ word, isBlank c = false)
    (rest : List Char) (nonempty : word ≠ []) :
    (word ++ rest).dropWhile isBlank = word ++ rest := by
  cases word with
  | nil => exact absurd rfl nonempty
  | cons c word =>
    rw [List.cons_append, List.dropWhile_cons_of_neg]
    simp [noBlank c List.mem_cons_self]

/-- Blanks around a word are removed. -/
theorem strip_padded {before word after : List Char} (leading : AreBlanks before)
    (noBlank : ∀ c ∈ word, isBlank c = false) (nonempty : word ≠ []) (trailing : AreBlanks after) :
    strip (before ++ word ++ after) = word := by
  -- The blanks at the end are removed from the front of the reversed text.
  have reversed : AreBlanks after.reverse := fun c listed => trailing c (List.mem_reverse.mp listed)
  have backwards : ∀ c ∈ word.reverse, isBlank c = false :=
    fun c listed => noBlank c (List.mem_reverse.mp listed)
  have front : (before ++ word ++ after).dropWhile isBlank = word ++ after := by
    rw [List.append_assoc, List.dropWhile_append_of_pos leading, dropWhile_word noBlank _ nonempty]
  have back : (after.reverse ++ word.reverse).dropWhile isBlank = word.reverse := by
    have whole := dropWhile_word backwards [] (by simpa using nonempty)
    rw [List.append_nil] at whole
    rw [List.dropWhile_append_of_pos reversed, whole]
  rw [strip, front, stripEnd, List.reverse_append, back, List.reverse_reverse]

/-- The upper case of an ASCII character is its usual capital. -/
theorem upperChar_ascii {c : Char} (ascii : c.toNat < 0x80) : upperChar c = [c.toUpper] := by
  have table : ∀ code < 0x80, upperChar (Char.ofNat code) = [(Char.ofNat code).toUpper] := by
    decide +kernel
  rw [← Char.ofNat_toNat c]
  exact table _ ascii

/-- A text of ASCII has the capitals of its characters. -/
theorem upper_ascii {text : List Char} (ascii : ∀ c ∈ text, c.toNat < 0x80) :
    upper text = text.map Char.toUpper := by
  induction text with
  | nil => rfl
  | cons c text ih =>
    obtain ⟨here, rest⟩ := List.forall_mem_cons.mp ascii
    rw [upper, List.flatMap_cons, upperChar_ascii here, List.map_cons, ← ih rest]
    rfl

/-- The capital of a plain character is plain. -/
theorem isPlain_toUpper {c : Char} (plain : IsPlain c) : IsPlain c.toUpper := by
  have table : ∀ code < 0x80, isBlank (Char.ofNat code) = false →
      (Char.ofNat code).toUpper.toNat < 0x80 ∧ isBlank (Char.ofNat code).toUpper = false := by
    decide +kernel
  have entry := table c.toNat plain.1
  rw [Char.ofNat_toNat] at entry
  exact entry plain.2

/-- A character that has a plain capital is plain. -/
theorem isPlain_of_toUpper {c : Char} (plain : IsPlain c.toUpper) : IsPlain c := by
  -- A table of codes does not help here, for nothing is known yet about the code of `c`.
  by_cases lower : 'a'.val ≤ c.val ∧ c.val ≤ 'z'.val
  · have least : 97 ≤ c.toNat := lower.1
    have greatest : c.toNat ≤ 122 := lower.2
    constructor
    · omega
    · simp [isBlank]
      omega
  · have same : c.toUpper = c := dif_neg lower
    rwa [same] at plain

section Variant

variable {word spelled : List Char}

/-- A variant of a plain word is plain. -/
theorem isPlain_of_isVariant (variant : IsVariant word spelled) (plain : ∀ c ∈ word, IsPlain c) :
    ∀ c ∈ spelled, IsPlain c := by
  intro c listed
  have capital : c.toUpper ∈ word.map Char.toUpper := variant ▸ List.mem_map_of_mem listed
  obtain ⟨d, inWord, same⟩ := List.mem_map.mp capital
  exact isPlain_of_toUpper (same ▸ isPlain_toUpper (plain d inWord))

/-- A variant of a plain word has the same capitals. -/
theorem upper_of_isVariant (variant : IsVariant word spelled) (plain : ∀ c ∈ word, IsPlain c) :
    upper spelled = upper word := by
  rw [upper_ascii fun c listed => (isPlain_of_isVariant variant plain c listed).1,
    upper_ascii fun c listed => (plain c listed).1, variant]

/-- A variant of a word with blanks around it has the upper case of the word once they are
removed. -/
theorem upper_strip_padded {before after : List Char} (plain : ∀ c ∈ word, IsPlain c)
    (nonempty : word ≠ []) (variant : IsVariant word spelled) (leading : AreBlanks before)
    (trailing : AreBlanks after) : upper (strip (before ++ spelled ++ after)) = upper word := by
  have noBlank : ∀ c ∈ spelled, isBlank c = false :=
    fun c listed => (isPlain_of_isVariant variant plain c listed).2
  have spelledNonempty : spelled ≠ [] := by
    rintro rfl
    exact nonempty (List.map_eq_nil_iff.mp variant.symm)
  rw [strip_padded leading noBlank spelledNonempty trailing, upper_of_isVariant variant plain]

end Variant

end EcmaEdition.Text
