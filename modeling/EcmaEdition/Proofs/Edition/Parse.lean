import EcmaEdition.Edition.Parse

/-!
# Texts that name an edition

Every edition is named by its own label. No text that names an edition begins with a hyphen, so on a
command line it is never taken for an option.
-/

set_option autoImplicit false

namespace EcmaEdition

namespace Text

/-- What is in front of the last character that is no blank stays. -/
theorem stripEnd_cons {c : Char} (kept : isBlank c = false) (rest : List Char) :
    stripEnd (c :: rest) = c :: stripEnd rest := by
  have append :
      (rest.reverse ++ [c]).dropWhile isBlank = rest.reverse.dropWhile isBlank ++ [c] := by
    rw [List.dropWhile_append]
    cases all : rest.reverse.dropWhile isBlank with
    | nil => simp [kept]
    | cons d others => simp
  rw [stripEnd, stripEnd, List.reverse_cons, append]
  simp

/-- A text that does not begin with a blank loses the blanks at its end alone. -/
theorem strip_cons {c : Char} (kept : isBlank c = false) (rest : List Char) :
    strip (c :: rest) = c :: stripEnd rest := by
  rw [strip, List.dropWhile_cons_of_neg (by simp [kept]), stripEnd_cons kept]

end Text

namespace Edition

open EcmaEdition.Text

/-- A text that begins with a hyphen begins with it in the form in which it is compared. -/
theorem normalize_hyphen (rest : List Char) :
    normalize ('-' :: rest) = '-' :: upper (stripEnd rest) := by
  have blank : isBlank '-' = false := by decide
  have same : upperChar '-' = ['-'] := by decide +kernel
  rw [normalize, strip_cons blank, upper, List.flatMap_cons, same]
  rfl

/-- A hyphen is no digit. -/
theorem digits?_hyphen (rest : List Char) : digits? ('-' :: rest) = none := by
  have digit : isDigit '-' = false := by decide +kernel
  simp [digits?, digit]

/-- A text that names an edition does not begin with a hyphen. -/
theorem head_ne_hyphen_of_parse {text : String} {edition : Edition}
    (named : parse text = .ok edition) : text.toList.head? ≠ some '-' := by
  intro hyphen
  obtain ⟨rest, begins⟩ : ∃ rest, text.toList = '-' :: rest := by
    cases letters : text.toList with
    | nil => simp [letters] at hyphen
    | cons first rest =>
      rw [letters, List.head?_cons, Option.some.injEq] at hyphen
      exact ⟨rest, by rw [hyphen]⟩
  rw [parse, begins, normalize_hyphen, digits?_hyphen] at named
  simp at named

/-- Every edition is named by its label. -/
theorem parse_label (edition : Edition) : parse edition.label = .ok edition := by
  cases edition <;> rfl

end Edition

end EcmaEdition
